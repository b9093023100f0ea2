import StaticSite.Proofs.FrontMatter.Scanning

/-!
# Documents under other names

The name of a document is part of the faults in it and of nothing else: a document that is read
is read alike under every name.
-/

namespace StaticSite

namespace FrontMatter

variable {name other : Text}

theorem toOption_scanValue (name other : Text) (colon : Cursor) (afterColon : Text) :
    (scanValue name colon afterColon).toOption = (scanValue other colon afterColon).toOption := by
  simp only [scanValue]
  split <;> rfl

theorem toOption_scan (name other : Text) (cursor : Cursor) (run : Option Run) (text : Text) :
    (scan name cursor run text).toOption = (scan other cursor run text).toOption := by
  induction text generalizing cursor run with
  | nil => rfl
  | cons character rest ih =>
      simp only [scan]
      split
      · rfl
      · split
        · exact toOption_scanValue name other cursor rest
        · split
          · rfl
          · split
            · split
              · exact ih _ _
              · rfl
            · exact ih _ _

theorem tokens_tokensFrom (name other : Text) (cursor : Cursor) (text : Text) :
    (tokensFrom name cursor text).tokens = (tokensFrom other cursor text).tokens := by
  induction length : text.length using Nat.strongRecOn generalizing cursor text with
  | ind length ih =>
      have same := toOption_scan name other cursor none text
      cases scanned : scan name cursor none text with
      | error fault =>
          cases again : scan other cursor none text with
          | error otherFault => rw [tokensFrom_of_error scanned, tokensFrom_of_error again]
          | ok step =>
              rw [scanned, again] at same
              cases same
      | ok step =>
          have again : scan other cursor none text = .ok step := by
            cases found : scan other cursor none text with
            | error fault =>
                rw [scanned, found] at same
                cases same
            | ok otherStep =>
                rw [scanned, found] at same
                cases same
                rfl
          by_cases kind : step.token.kind = .endOfText
          · rw [tokensFrom_of_end scanned kind, tokensFrom_of_end again kind]
          · rw [tokensFrom_of_scan scanned kind, tokensFrom_of_scan again kind]
            have shorter := rest_scan scanned kind
            rw [ih step.rest.length (by omega) step.cursor step.rest rfl]

theorem toOption_readPairs (name other : Text) (fault otherFault : Option Fault) (fields : Fields)
    (tokens : List Token) :
    (readPairs name fault fields tokens).toOption =
      (readPairs other otherFault fields tokens).toOption := by
  induction length : tokens.length using Nat.strongRecOn generalizing fields tokens with
  | ind length ih =>
      cases tokens with
      | nil => rfl
      | cons token rest =>
          subst length
          unfold readPairs
          split
          · rfl
          · exact ih rest.length (by simp) fields rest rfl
          · cases rest with
            | nil => rfl
            | cons value rest =>
                simp only
                split
                · have shorter : rest.length < (token :: value :: rest).length := by
                    simp only [List.length_cons]
                    omega
                  exact ih rest.length shorter _ rest rfl
                · rfl
          · rfl
          · rfl

/-- What is read does not depend on the name of the document. -/
theorem toOption_readDocument (name other text : Text) :
    (readDocument name text).toOption = (readDocument other text).toOption := by
  have headers : (readHeader name (tokenize name text)).toOption =
      (readHeader other (tokenize other text)).toOption := by
    unfold readHeader
    rw [tokenize, tokenize, tokens_tokensFrom name other]
    split
    · rfl
    · split
      · exact toOption_readPairs name other _ _ _ _
      · rfl
  unfold readDocument
  cases read : readHeader name (tokenize name text) <;>
    cases again : readHeader other (tokenize other text) <;> rw [read, again] at headers
  · rfl
  · cases headers
  · cases headers
  · cases headers
    rfl

end FrontMatter

end StaticSite
