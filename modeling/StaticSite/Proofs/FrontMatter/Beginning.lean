import StaticSite.Proofs.FrontMatter.Scanning

/-!
# How documents begin

A document that is read begins with its opening bar: blanks that a scan passes over end a line.
-/

namespace StaticSite

namespace FrontMatter

variable {name text : Text}

theorem kind_of_scanValue {colon : Cursor} {step : Step}
    (scanned : scanValue name colon text = .ok step) : step.token.kind = .pairValue := by
  unfold scanValue at scanned
  simp only at scanned
  split at scanned
  · cases scanned
  · cases scanned
    rfl

/-- A bar is scanned only from the beginning of a text. -/
theorem bar_isPrefix_of_scan {cursor : Cursor} {run : Option Run} {step : Step}
    (scanned : scan name cursor run text = .ok step) (kind : step.token.kind = .bar) :
    bar <+: (run.elim [] Run.reversed).reverse ++ text := by
  induction text generalizing cursor run with
  | nil =>
      cases scanned
      cases kind
  | cons character rest ih =>
      rw [scan] at scanned
      split at scanned
      · cases scanned
        cases kind
      · split at scanned
        · rw [kind_of_scanValue scanned] at kind
          cases kind
        · have said : (run.getD ⟨cursor, []⟩).reversed = run.elim [] Run.reversed := by
            cases run <;> rfl
          simp only [said] at scanned
          split at scanned
          · next isBar =>
              refine ⟨rest, ?_⟩
              have reversed := congrArg List.reverse isBar.1
              rw [List.reverse_cons] at reversed
              rw [List.append_cons, reversed]
              rfl
          · split at scanned
            · next ends =>
                -- The scan passes over blanks, with which no bar begins.
                split at scanned
                · obtain ⟨later, begins⟩ := ih scanned
                  simp only [Option.elim_none, List.reverse_nil, List.nil_append] at begins
                  rw [← begins] at ends
                  simp [bar, endsLine] at ends
                · cases scanned
                  cases kind
            · have begins := ih scanned
              rwa [Option.elim_some, List.reverse_cons, List.append_assoc] at begins

theorem bar_isPrefix_of_readDocument {document : Document}
    (read : readDocument name text = .ok document) : bar <+: text := by
  unfold readDocument at read
  cases header : readHeader name (tokenize name text) with
  | error fault =>
      rw [header] at read
      cases read
  | ok found =>
      rw [readHeader, tokenize] at header
      cases scanned : scan name {} none text with
      | error fault =>
          rw [tokensFrom_of_error scanned] at header
          cases header
      | ok step =>
          have kind : step.token.kind = .bar := by
            by_cases last : step.token.kind = .endOfText
            · rw [tokensFrom_of_end scanned last] at header
              simp [last] at header
            · rw [tokensFrom_of_scan scanned last] at header
              refine Decidable.byContradiction fun other => ?_
              simp [other] at header
          exact bar_isPrefix_of_scan scanned kind

end FrontMatter

end StaticSite
