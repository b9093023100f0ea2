import Mathlib.Algebra.Group.Nat.Defs
import Mathlib.Data.List.Infix
import StaticSite.Config.Yaml.Token
import StaticSite.Proofs.Config.Yaml.Stepping
import StaticSite.Proofs.Fault

/-!
# Faults of the scanner of YAML

Where the scanner stands there is the rest of the text.  It fails, other than because the text has
not the form of YAML, only at an escape of eight hexadecimal digits whose number is not that of a
character.
-/

namespace StaticSite

namespace Config

namespace Yaml

variable {α β : Type} {text : Text} {step : Scan α} {scanner : Scanner}

/-- The scanner stands somewhere in a text. -/
def Within (text : Text) (scanner : Scanner) : Prop := scanner.rest <:+ text

/-- There is an escape in a text whose number is not that of a character. -/
def Escapes (text : Text) (fault : Fault) : Prop :=
  ∃ digits rest code, '\\' :: 'U' :: digits ++ rest <:+ text ∧ digits.length = 8 ∧
    Json.hexNumber? digits = some code ∧ escapedChar code = .error (.fault fault)

/-- A step of the scanner stays in a text, and fails only at an escape in it. -/
def Safe (text : Text) (step : Scan α) : Prop :=
  Leads (Within text) step (fun _ => Within text) (Escapes text)

theorem Safe.bind {next : α → Scan β} (safe : Safe text step)
    (then_ : ∀ value, Safe text (next value)) : Safe text (step >>= next) :=
  Leads.bind safe then_

theorem safe_pure (value : α) : Safe text (pure value) :=
  leads_pure value fun _ => id

theorem safe_fail : Safe text (fail : Scan α) :=
  leads_malformed

theorem safe_fail_bind {next : α → Scan β} : Safe text (fail >>= next) :=
  fun _ _ => trivial

theorem safe_get {next : Scanner → Scan β}
    (then_ : ∀ scanner, Within text scanner → Safe text (next scanner)) :
    Safe text (get >>= next) :=
  leads_get fun scanner within => (then_ scanner within).from_ fun _ same => same ▸ within

theorem safe_modify {change : Scanner → Scanner}
    (stays : ∀ scanner, (change scanner).rest <:+ scanner.rest) : Safe text (modify change) :=
  leads_modify fun scanner within => (stays scanner).trans within

theorem safe_set (within : Within text scanner) : Safe text (set scanner) :=
  leads_set fun _ _ => within

/-! ## Looking and going on -/

theorem step_suffix (scanner : Scanner) : scanner.step.rest <:+ scanner.rest := by
  unfold Scanner.step
  split
  · exact List.suffix_refl _
  · next character rest same =>
      rw [same]
      dsimp only
      split
      · exact List.suffix_cons _ _
      · split
        · exact List.suffix_cons _ _
        · split
          · exact List.suffix_cons _ _
          · exact List.suffix_cons _ _

theorem forward_suffix (count : Nat) (scanner : Scanner) :
    (scanner.forward count).rest <:+ scanner.rest := by
  induction count generalizing scanner with
  | zero => exact List.suffix_refl _
  | succ count ih => exact (ih scanner.step).trans (step_suffix scanner)

theorem safe_peekAt (ahead : Nat) : Safe text (peekAt ahead) :=
  safe_get fun _ _ => safe_pure _

theorem safe_peek : Safe text peek :=
  safe_peekAt 0

theorem safe_peekText (count : Nat) : Safe text (peekText count) :=
  safe_get fun _ _ => safe_pure _

theorem safe_forwardBy (count : Nat) : Safe text (forwardBy count) :=
  safe_modify (forward_suffix count)

theorem safe_forward : Safe text forward :=
  safe_forwardBy 1

theorem safe_takeWhile (member : Char → Bool) : Safe text (takeWhile member) :=
  safe_get fun _ _ => (safe_forwardBy _).bind fun _ => safe_pure _

theorem safe_skipSpaces : Safe text skipSpaces :=
  (safe_takeWhile _).bind fun _ => safe_pure _

theorem safe_skipComment : Safe text skipComment := by
  unfold skipComment
  refine safe_peek.bind fun next => ?_
  split
  · exact (safe_takeWhile _).bind fun _ => safe_pure _
  · exact safe_pure _

theorem safe_scanBreak : Safe text scanBreak := by
  unfold scanBreak
  refine safe_get fun scanner _ => ?_
  split
  · exact (safe_forwardBy 2).bind fun _ => safe_pure _
  · split
    · exact safe_forward.bind fun _ => safe_pure _
    · split
      · exact safe_forward.bind fun _ => safe_pure _
      · exact safe_pure _
  · exact safe_pure _

theorem safe_limit : Safe text limit :=
  safe_get fun _ _ => safe_pure _

theorem safe_emit (token : Token) : Safe text (emit token) :=
  safe_modify fun _ => List.suffix_refl _

theorem safe_emitAt (number : Nat) (token : Token) : Safe text (emitAt number token) :=
  safe_modify fun _ => List.suffix_refl _

theorem safe_allowSimpleKey (allowed : Bool) : Safe text (allowSimpleKey allowed) :=
  safe_modify fun _ => List.suffix_refl _

/-! ## Possible keys and indentation -/

theorem safe_dropStaleKeys : Safe text dropStaleKeys := by
  unfold dropStaleKeys
  refine safe_get fun scanner within => ?_
  dsimp only
  split
  · exact safe_fail
  · exact safe_set within

theorem safe_removePossibleKey : Safe text removePossibleKey := by
  unfold removePossibleKey
  refine safe_get fun scanner within => ?_
  split
  · exact safe_fail
  · exact safe_set within

theorem safe_savePossibleKey : Safe text savePossibleKey := by
  unfold savePossibleKey
  refine safe_get fun scanner _ => ?_
  split
  · exact safe_removePossibleKey.bind fun _ => safe_modify fun _ => List.suffix_refl _
  · exact safe_pure _

theorem safe_closeBlocks (column : Int) (count : Nat) : Safe text (closeBlocks column count) := by
  induction count with
  | zero => exact safe_pure _
  | succ count ih =>
      rw [closeBlocks]
      refine safe_get fun scanner within => ?_
      split
      · split
        · refine Safe.bind (safe_set ?_) fun _ => (safe_emit _).bind fun _ => ih
          exact within
        · exact safe_pure _
      · exact safe_pure _

theorem safe_unwindIndent (column : Int) : Safe text (unwindIndent column) := by
  unfold unwindIndent
  refine safe_get fun scanner _ => ?_
  split
  · exact safe_closeBlocks column _
  · exact safe_pure _

theorem safe_addIndent (column : Nat) : Safe text (addIndent column) := by
  unfold addIndent
  refine safe_get fun scanner within => ?_
  split
  · refine Safe.bind (safe_set ?_) fun _ => safe_pure _
    exact within
  · exact safe_pure _

/-! ## Directives, anchors and tags -/

theorem safe_scanNumber : Safe text scanNumber := by
  unfold scanNumber
  refine (safe_takeWhile _).bind fun digits => ?_
  split
  · exact safe_fail
  · exact safe_pure _

theorem safe_skipRestOfLine : Safe text skipRestOfLine := by
  unfold skipRestOfLine
  refine safe_skipSpaces.bind fun _ => safe_skipComment.bind fun _ => safe_peek.bind fun next => ?_
  split
  · exact safe_scanBreak.bind fun _ => safe_pure _
  · exact safe_fail

theorem safe_scanOctets (fuel : Nat) : Safe text (scanOctets fuel) := by
  induction fuel with
  | zero => exact safe_pure _
  | succ fuel ih =>
      rw [scanOctets]
      refine safe_peek.bind fun next => ?_
      split
      · refine safe_forward.bind fun _ => (safe_peekText 2).bind fun digits => ?_
        split
        · exact (safe_forwardBy 2).bind fun _ => ih.bind fun _ => safe_pure _
        · exact safe_fail
      · exact safe_pure _

theorem safe_scanAddressPieces (fuel : Nat) : Safe text (scanAddressPieces fuel) := by
  induction fuel with
  | zero => exact safe_pure _
  | succ fuel ih =>
      rw [scanAddressPieces]
      refine (safe_takeWhile _).bind fun plain => safe_peek.bind fun next => ?_
      split
      · refine safe_limit.bind fun limit => (safe_scanOctets limit).bind fun octets => ?_
        split
        · exact ih.bind fun _ => safe_pure _
        · exact safe_fail
      · exact safe_pure _

theorem safe_scanAddress : Safe text scanAddress := by
  unfold scanAddress
  refine safe_peek.bind fun next => ?_
  split
  · split
    · exact safe_limit.bind fun _ => safe_scanAddressPieces _
    · exact safe_fail
  · exact safe_fail

theorem safe_scanHandle : Safe text scanHandle := by
  unfold scanHandle
  refine safe_peek.bind fun first => ?_
  split
  · exact safe_fail_bind
  · refine (safe_peekAt 1).bind fun second => ?_
    split
    · exact safe_forward.bind fun _ => safe_pure _
    · refine safe_get fun scanner _ => (safe_peekAt _).bind fun closing => ?_
      split
      · exact safe_fail
      · exact (safe_forwardBy _).bind fun _ => safe_pure _

theorem safe_scanDirective : Safe text scanDirective := by
  have ends (token : Token) : Safe text (skipRestOfLine >>= fun _ => pure token : Scan Token) :=
    safe_skipRestOfLine.bind fun _ => safe_pure token
  unfold scanDirective
  refine safe_forward.bind fun _ => (safe_takeWhile _).bind fun name => safe_peek.bind fun next => ?_
  dsimp only
  split
  · exact safe_fail_bind
  · split
    · refine safe_skipSpaces.bind fun _ => safe_scanNumber.bind fun major =>
        safe_peek.bind fun next => ?_
      split
      · exact safe_fail_bind
      · refine safe_forward.bind fun _ => safe_scanNumber.bind fun minor =>
          safe_peek.bind fun next => ?_
        split
        · exact safe_fail_bind
        · exact (safe_pure _).bind ends
    · split
      · refine safe_skipSpaces.bind fun _ => safe_scanHandle.bind fun handle =>
          safe_peek.bind fun next => ?_
        split
        · exact safe_fail_bind
        · refine safe_skipSpaces.bind fun _ => safe_scanAddress.bind fun start =>
            safe_peek.bind fun next => ?_
          split
          · exact safe_fail_bind
          · exact (safe_pure _).bind ends
      · exact (safe_takeWhile _).bind fun _ => (safe_pure _).bind ends

theorem safe_scanAnchorName : Safe text scanAnchorName := by
  unfold scanAnchorName
  refine safe_forward.bind fun _ => (safe_takeWhile _).bind fun name => ?_
  split
  · exact safe_fail_bind
  · refine safe_peek.bind fun next => ?_
    split
    · split
      · exact safe_pure _
      · exact safe_fail
    · exact safe_pure _

theorem safe_scanTag : Safe text scanTag := by
  unfold scanTag
  have ends (token : Token) : Safe text
      (peek >>= fun next => if isSpaceOrEnd next then pure token else fail : Scan Token) := by
    refine safe_peek.bind fun next => ?_
    split
    · exact safe_pure token
    · exact safe_fail
  refine (safe_peekAt 1).bind fun next => ?_
  dsimp only
  split
  · refine (safe_forwardBy 2).bind fun _ => safe_scanAddress.bind fun suffix =>
      safe_peek.bind fun next => ?_
    split
    · exact safe_fail_bind
    · exact safe_forward.bind fun _ => (safe_pure _).bind ends
  · split
    · exact safe_forward.bind fun _ => (safe_pure _).bind ends
    · refine safe_get fun scanner _ => ?_
      split
      · exact safe_scanHandle.bind fun handle => safe_scanAddress.bind fun suffix =>
          (safe_pure _).bind ends
      · exact safe_forward.bind fun _ => (safe_pure _).bind fun handle =>
          safe_scanAddress.bind fun suffix => (safe_pure _).bind ends

/-! ## Block scalars -/

theorem safe_skipToColumn (column fuel : Nat) : Safe text (skipToColumn column fuel) := by
  induction fuel with
  | zero => exact safe_pure _
  | succ fuel ih =>
      rw [skipToColumn]
      refine safe_get fun scanner _ => safe_peek.bind fun next => ?_
      split
      · exact safe_forward.bind fun _ => ih
      · exact safe_pure _

theorem safe_scanEmptyLines (column fuel : Nat) : Safe text (scanEmptyLines column fuel) := by
  induction fuel with
  | zero => exact safe_pure _
  | succ fuel ih =>
      rw [scanEmptyLines]
      refine safe_limit.bind fun limit => (safe_skipToColumn column limit).bind fun _ =>
        safe_peek.bind fun next => ?_
      split
      · split
        · exact safe_scanBreak.bind fun _ => ih.bind fun _ => safe_pure _
        · exact safe_pure _
      · exact safe_pure _

theorem safe_scanIndentation (deepest fuel : Nat) : Safe text (scanIndentation deepest fuel) := by
  induction fuel generalizing deepest with
  | zero => exact safe_pure _
  | succ fuel ih =>
      rw [scanIndentation]
      refine safe_peek.bind fun next => ?_
      split
      · exact safe_forward.bind fun _ => safe_get fun scanner _ => ih _
      · split
        · exact safe_scanBreak.bind fun _ => (ih deepest).bind fun _ => safe_pure _
        · exact safe_pure _
      · exact safe_pure _

theorem safe_scanChomping : Safe text scanChomping := by
  unfold scanChomping
  refine safe_peek.bind fun next => ?_
  split
  · exact safe_forward.bind fun _ => safe_pure _
  · exact safe_forward.bind fun _ => safe_pure _
  · exact safe_pure _

theorem safe_scanIncrement : Safe text scanIncrement := by
  unfold scanIncrement
  refine safe_peek.bind fun next => ?_
  split
  · split
    · exact safe_fail
    · split
      · exact safe_forward.bind fun _ => safe_pure _
      · exact safe_pure _
  · exact safe_pure _

theorem safe_scanBlockHeader : Safe text scanBlockHeader := by
  have ends (header : Option Bool × Option Nat) : Safe text
      (peek >>= fun next => if isSpaceOrEnd next then pure header else fail) := by
    refine safe_peek.bind fun next => ?_
    split
    · exact safe_pure header
    · exact safe_fail
  unfold scanBlockHeader
  dsimp only
  refine safe_scanChomping.bind fun chomping => ?_
  split
  · exact safe_scanIncrement.bind fun _ => (safe_pure _).bind ends
  · refine safe_scanIncrement.bind fun increment => ?_
    split
    · exact safe_scanChomping.bind fun _ => (safe_pure _).bind ends
    · exact (safe_pure _).bind ends

theorem safe_atContent (column : Nat) : Safe text (atContent column) :=
  safe_get fun _ _ => safe_peek.bind fun _ => safe_pure _

theorem safe_scanBlockLines (folded : Bool) (column : Nat) (breaks : Text) (fuel : Nat) :
    Safe text (scanBlockLines folded column breaks fuel) := by
  induction fuel generalizing breaks with
  | zero => exact safe_pure _
  | succ fuel ih =>
      rw [scanBlockLines]
      refine safe_peek.bind fun leading => (safe_takeWhile _).bind fun line =>
        safe_scanBreak.bind fun lineEnd => safe_limit.bind fun limit =>
        (safe_scanEmptyLines column limit).bind fun after => (safe_atContent column).bind fun goes => ?_
      split
      · exact safe_peek.bind fun next => (ih after).bind fun _ => safe_pure _
      · exact safe_pure _

theorem safe_scanBlockScalar (folded : Bool) : Safe text (scanBlockScalar folded) := by
  unfold scanBlockScalar
  refine safe_forward.bind fun _ => safe_scanBlockHeader.bind fun (chomping, increment) =>
    safe_skipRestOfLine.bind fun _ => safe_get fun scanner _ => ?_
  dsimp only
  split
  · refine safe_limit.bind fun limit => (safe_scanEmptyLines _ limit).bind fun breaks =>
      (safe_pure _).bind fun (breaks, column) => (safe_atContent column).bind fun goes => ?_
    split
    · exact safe_limit.bind fun limit => (safe_scanBlockLines _ _ _ limit).bind fun _ => safe_pure _
    · exact (safe_pure _).bind fun _ => safe_pure _
  · refine safe_limit.bind fun limit => (safe_scanIndentation 0 limit).bind fun (breaks, deepest) =>
      (safe_pure _).bind fun (breaks, column) => (safe_atContent column).bind fun goes => ?_
    split
    · exact safe_limit.bind fun limit => (safe_scanBlockLines _ _ _ limit).bind fun _ => safe_pure _
    · exact (safe_pure _).bind fun _ => safe_pure _

/-! ## Quoted scalars -/

theorem safe_atSeparator : Safe text atSeparator :=
  (safe_peekText 3).bind fun _ => (safe_peekAt 3).bind fun _ => safe_pure _

theorem safe_scanQuotedBreaks (fuel : Nat) : Safe text (scanQuotedBreaks fuel) := by
  induction fuel with
  | zero => exact safe_pure _
  | succ fuel ih =>
      rw [scanQuotedBreaks]
      refine safe_atSeparator.bind fun ends => ?_
      split
      · exact safe_fail_bind
      · refine (safe_takeWhile _).bind fun _ => safe_peek.bind fun next => ?_
        split
        · split
          · exact safe_scanBreak.bind fun _ => ih.bind fun _ => safe_pure _
          · exact safe_pure _
        · exact safe_pure _

/-! ## Escapes -/

theorem hexDigit_lt {digit : Char} {value : Nat} (found : Json.hexDigit? digit = some value) :
    value < 16 := by
  unfold Json.hexDigit? at found
  split at found
  · next decimal =>
      cases found
      simp only [Char.isDigit, Bool.and_eq_true, decide_eq_true_eq, ge_iff_le, UInt32.le_iff_toNat_le]
        at decimal
      have high : digit.toNat ≤ 57 := decimal.2
      omega
  · split at found
    · next letter =>
        cases found
        have high : digit.toLower.toNat ≤ 102 := letter.2
        omega
    · cases found

/-- A number of hexadecimal digits has no more digits in base sixteen. -/
theorem hexNumber_lt {digits : Text} {code : Nat} (number : Json.hexNumber? digits = some code) :
    code < 16 ^ digits.length := by
  have larger (digits : Text) : ∀ (bound : Nat) (start : Option Nat), (∀ value ∈ start, value < bound) →
      ∀ value ∈ digits.foldl (fun value digit => do return (← value) * 16 + (← Json.hexDigit? digit))
        start, value < bound * 16 ^ digits.length := by
    induction digits with
    | nil =>
        intro bound start less value member
        simpa using less value member
    | cons digit digits ih =>
        intro bound start less value member
        rw [List.length_cons, Nat.pow_succ', ← Nat.mul_assoc]
        refine ih (bound * 16) _ ?_ value member
        intro next made
        obtain ⟨before, known, made⟩ := Option.bind_eq_some_iff.1 made
        obtain ⟨last, found, made⟩ := Option.bind_eq_some_iff.1 made
        cases made
        have small := hexDigit_lt found
        have := less before known
        omega
  simpa using larger digits 1 (some 0) (by simp) code number

theorem rest_step (scanner : Scanner) : scanner.step.rest = scanner.rest.tail := by
  unfold Scanner.step
  split
  · next same => rw [same]; rfl
  · next character rest same =>
      rw [same]
      dsimp only
      split
      · rfl
      · split
        · rfl
        · split
          · rfl
          · rfl

theorem leads_peekAt {before : Scanner → Prop} {after : β → Scanner → Prop} {may : Fault → Prop}
    {ahead : Nat} {next : Option Char → Scan β}
    (then_ : ∀ scanner, before scanner →
      Leads (· = scanner) (next scanner.rest[ahead]?) after may) :
    Leads before (peekAt ahead >>= next) after may :=
  fun scanner holds => then_ scanner holds scanner rfl

theorem leads_peekText {before : Scanner → Prop} {after : β → Scanner → Prop} {may : Fault → Prop}
    {count : Nat} {next : Text → Scan β}
    (then_ : ∀ scanner, before scanner →
      Leads (· = scanner) (next (scanner.rest.take count)) after may) :
    Leads before (peekText count >>= next) after may :=
  fun scanner holds => then_ scanner holds scanner rfl

theorem leads_forward {before : Scanner → Prop} {after : β → Scanner → Prop} {may : Fault → Prop}
    {next : Unit → Scan β}
    (then_ : ∀ scanner, before scanner → Leads (· = scanner.step) (next ()) after may) :
    Leads before (forward >>= next) after may :=
  fun scanner holds => then_ scanner holds scanner.step rfl

theorem lt_of_escapedChar {code : Nat} {fault : Fault}
    (failed : escapedChar code = .error (.fault fault)) : 0x10FFFF < code := by
  unfold escapedChar at failed
  split at failed
  · omega
  · split at failed
    · assumption
    · cases failed

/-- Only the longest escapes have numbers that are not those of characters. -/
theorem eq_of_escapeWidth {letter : Char} {width code : Nat} {digits : Text}
    (wide : escapeWidth letter = some width) (short : digits.length ≤ width)
    (number : Json.hexNumber? digits = some code) (large : 0x10FFFF < code) :
    letter = 'U' ∧ width = 8 := by
  have less := hexNumber_lt number
  unfold escapeWidth at wide
  split at wide
  · cases wide
    have least : 16 ^ digits.length ≤ 16 ^ 2 := Nat.pow_le_pow_right (by decide) short
    omega
  · cases wide
    have least : 16 ^ digits.length ≤ 16 ^ 4 := Nat.pow_le_pow_right (by decide) short
    omega
  · cases wide
    exact ⟨rfl, rfl⟩
  · cases wide

/-- Behind the backslash of an escape. -/
def Escaped (text : Text) (scanner : Scanner) : Prop := '\\' :: scanner.rest <:+ text

theorem leads_scanEscape :
    Leads (Escaped text) scanEscape (fun _ => Within text) (Escapes text) := by
  unfold scanEscape
  refine leads_peekAt fun scanner escaped => ?_
  have within : Within text scanner := (List.suffix_cons _ _).trans escaped
  have stays {step : Scan Text} (safe : Safe text step) :
      Leads (· = scanner) step (fun _ => Within text) (Escapes text) :=
    safe.from_ fun _ same => same ▸ within
  split
  · exact stays safe_fail
  · next letter first =>
      split
      · exact stays (safe_forward.bind fun _ => safe_pure _)
      · next width _ wide =>
          refine leads_forward fun here same => leads_peekText fun ahead behind => ?_
          subst same behind
          have opens : here.rest = letter :: here.step.rest := by
            rw [rest_step]
            obtain ⟨rest, same⟩ := List.head?_eq_some_iff.1
              ((List.head?_eq_getElem? (l := here.rest)).trans first)
            rw [same]
            rfl
          have onwards : Within text here.step := (step_suffix here).trans within
          split
          · next code number =>
              dsimp only
              split
              · exact fun _ _ => trivial
              · next long =>
                  refine Leads.bind (leads_reading (fun _ _ other same => ?_)
                    fun fault failed _ _ => ?_) fun character =>
                      (safe_forwardBy width).bind fun _ => safe_pure _
                  · exact same ▸ onwards
                  · have short := List.length_take_le width here.step.rest
                    obtain ⟨rfl, rfl⟩ := eq_of_escapeWidth wide short number
                      (lt_of_escapedChar failed)
                    refine ⟨_, here.step.rest.drop 8, code, ?_, by omega, number, failed⟩
                    rw [Escaped, opens] at escaped
                    simpa using escaped
          · exact leads_malformed
      · refine stays ?_
        split
        · exact safe_scanBreak.bind fun _ => safe_limit.bind fun limit => safe_scanQuotedBreaks limit
        · exact safe_fail

theorem safe_scanQuotedMark (double : Bool) : Safe text (scanQuotedMark double) := by
  unfold scanQuotedMark
  refine leads_peekAt fun scanner within => ?_
  have stays {step : Scan (Option Text)} (safe : Safe text step) :
      Leads (· = scanner) step (fun _ => Within text) (Escapes text) :=
    safe.from_ fun _ same => same ▸ within
  split
  · exact stays (safe_pure _)
  · next character first =>
      split
      · refine stays ((safe_peekAt 1).bind fun second => ?_)
        split
        · exact (safe_forwardBy 2).bind fun _ => safe_pure _
        · exact safe_pure _
      · split
        · exact stays (safe_forward.bind fun _ => safe_pure _)
        · split
          · next backslash =>
              simp only [Bool.and_eq_true, decide_eq_true_eq] at backslash
              refine leads_forward fun here same => Leads.bind (leads_scanEscape.from_ ?_)
                fun _ => safe_pure _
              rintro _ rfl
              subst same
              rw [Escaped, rest_step, ← backslash.2]
              obtain ⟨rest, same⟩ := List.head?_eq_some_iff.1
                ((List.head?_eq_getElem? (l := here.rest)).trans first)
              rw [Within, same] at within
              rwa [same]
          · exact stays (safe_pure _)

theorem safe_scanQuotedWord (double : Bool) (fuel : Nat) : Safe text (scanQuotedWord double fuel) := by
  induction fuel with
  | zero => exact safe_pure _
  | succ fuel ih =>
      rw [scanQuotedWord]
      refine (safe_takeWhile _).bind fun plain => (safe_scanQuotedMark double).bind fun mark => ?_
      split
      · exact ih.bind fun _ => safe_pure _
      · exact safe_pure _

theorem safe_scanQuotedSpaces : Safe text scanQuotedSpaces := by
  unfold scanQuotedSpaces
  refine (safe_takeWhile _).bind fun spaces => safe_peek.bind fun next => ?_
  split
  · exact safe_fail
  · split
    · refine safe_scanBreak.bind fun lineEnd => safe_limit.bind fun limit =>
        (safe_scanQuotedBreaks limit).bind fun breaks => ?_
      split
      · exact safe_pure _
      · split
        · exact safe_pure _
        · exact safe_pure _
    · exact safe_pure _

theorem safe_scanQuotedRest (quote : Char) (fuel : Nat) : Safe text (scanQuotedRest quote fuel) := by
  induction fuel with
  | zero => exact safe_fail
  | succ fuel ih =>
      rw [scanQuotedRest]
      refine safe_peek.bind fun next => ?_
      split
      · exact safe_pure _
      · exact safe_scanQuotedSpaces.bind fun spaces => safe_limit.bind fun limit =>
          (safe_scanQuotedWord _ limit).bind fun word => ih.bind fun _ => safe_pure _

theorem safe_scanQuoted (quote : Char) : Safe text (scanQuoted quote) :=
  safe_forward.bind fun _ => safe_limit.bind fun limit => (safe_scanQuotedWord _ limit).bind
    fun _ => safe_limit.bind fun limit => (safe_scanQuotedRest quote limit).bind
      fun _ => safe_forward.bind fun _ => safe_pure _

/-! ## Plain scalars -/

theorem safe_scanPlainBreaks (fuel : Nat) : Safe text (scanPlainBreaks fuel) := by
  induction fuel with
  | zero => exact safe_pure _
  | succ fuel ih =>
      rw [scanPlainBreaks]
      refine safe_peek.bind fun next => ?_
      split
      · exact safe_forward.bind fun _ => ih
      · split
        · refine safe_scanBreak.bind fun first => safe_atSeparator.bind fun ends => ?_
          split
          · exact safe_pure _
          · exact ih.bind fun _ => safe_pure _
        · exact safe_pure _
      · exact safe_pure _

theorem safe_scanPlainSpaces : Safe text scanPlainSpaces := by
  unfold scanPlainSpaces
  refine (safe_takeWhile _).bind fun spaces => safe_peek.bind fun next => ?_
  split
  · exact safe_pure _
  · split
    · refine safe_scanBreak.bind fun lineEnd => (safe_allowSimpleKey true).bind fun _ =>
        safe_atSeparator.bind fun ends => ?_
      split
      · exact safe_pure _
      · refine safe_limit.bind fun limit => (safe_scanPlainBreaks limit).bind fun found => ?_
        split
        · exact safe_pure _
        · split
          · exact safe_pure _
          · split
            · exact safe_pure _
            · exact safe_pure _
    · exact safe_pure _

theorem safe_scanPlainWords (spaces : Text) (fuel : Nat) : Safe text (scanPlainWords spaces fuel) := by
  induction fuel generalizing spaces with
  | zero => exact safe_pure _
  | succ fuel ih =>
      rw [scanPlainWords]
      refine safe_peek.bind fun next => ?_
      split
      · exact safe_pure _
      · refine safe_get fun scanner _ => ?_
        dsimp only
        split
        · exact safe_pure _
        · refine (safe_allowSimpleKey false).bind fun _ => (safe_peekText _).bind fun word =>
            (safe_forwardBy _).bind fun _ => safe_scanPlainSpaces.bind fun after =>
            safe_get fun scanner _ => safe_peek.bind fun next => ?_
          split
          · exact safe_pure _
          · exact (ih after).bind fun _ => safe_pure _

theorem safe_scanPlain : Safe text scanPlain :=
  safe_limit.bind fun limit => (safe_scanPlainWords [] limit).bind fun _ => safe_pure _

/-! ## Fetching tokens -/

theorem safe_skipToToken (fuel : Nat) : Safe text (skipToToken fuel) := by
  have breaks {ih : Scan Unit} (safe : Safe text ih) : Safe text (do
      skipSpaces
      skipComment
      unless (← scanBreak).isEmpty do
        if (← get).flowLevel = 0 then allowSimpleKey true
        ih) := by
    refine safe_skipSpaces.bind fun _ => safe_skipComment.bind fun _ =>
      safe_scanBreak.bind fun found => ?_
    split
    · exact safe_pure _
    · refine safe_get fun scanner _ => ?_
      split
      · exact (safe_allowSimpleKey true).bind fun _ => safe
      · exact safe
  induction fuel with
  | zero => exact safe_pure _
  | succ fuel ih =>
      rw [skipToToken]
      refine safe_get fun scanner _ => safe_peek.bind fun next => ?_
      dsimp only
      split
      · exact safe_forward.bind fun _ => breaks ih
      · exact breaks ih

theorem safe_endBlocks : Safe text endBlocks :=
  (safe_unwindIndent (-1)).bind fun _ => safe_removePossibleKey.bind fun _ =>
    safe_allowSimpleKey false

theorem safe_fetchKeyCandidate {scan : Scan Token} (safe : Safe text scan) :
    Safe text (fetchKeyCandidate scan) :=
  safe_savePossibleKey.bind fun _ => (safe_allowSimpleKey false).bind fun _ =>
    safe.bind fun token => safe_emit token

theorem safe_fetchFlowStart (token : Token) : Safe text (fetchFlowStart token) := by
  refine safe_savePossibleKey.bind fun _ => Safe.bind (safe_modify ?_) fun _ =>
    (safe_allowSimpleKey true).bind fun _ => safe_forward.bind fun _ => safe_emit token
  exact fun _ => List.suffix_refl _

theorem safe_fetchFlowEnd (token : Token) : Safe text (fetchFlowEnd token) := by
  refine safe_removePossibleKey.bind fun _ => Safe.bind (safe_modify ?_) fun _ =>
    (safe_allowSimpleKey false).bind fun _ => safe_forward.bind fun _ => safe_emit token
  exact fun _ => List.suffix_refl _

theorem safe_fetchBlockEntry : Safe text fetchBlockEntry := by
  have ends : Safe text (do
      allowSimpleKey true
      removePossibleKey
      forward
      emit .blockEntry) :=
    (safe_allowSimpleKey true).bind fun _ => safe_removePossibleKey.bind fun _ =>
      safe_forward.bind fun _ => safe_emit _
  unfold fetchBlockEntry
  refine safe_get fun scanner _ => ?_
  dsimp only
  split
  · split
    · refine (safe_addIndent _).bind fun opened => ?_
      split
      · exact (safe_emit _).bind fun _ => ends
      · exact ends
    · exact safe_fail_bind
  · exact ends

theorem safe_fetchKey : Safe text fetchKey := by
  have ends (allowed : Bool) : Safe text (do
      allowSimpleKey allowed
      removePossibleKey
      forward
      emit .key) :=
    (safe_allowSimpleKey allowed).bind fun _ => safe_removePossibleKey.bind fun _ =>
      safe_forward.bind fun _ => safe_emit _
  unfold fetchKey
  refine safe_get fun scanner _ => ?_
  dsimp only
  split
  · split
    · refine (safe_addIndent _).bind fun opened => ?_
      split
      · exact (safe_emit _).bind fun _ => ends _
      · exact ends _
    · exact safe_fail_bind
  · exact ends _

theorem safe_fetchValue : Safe text fetchValue := by
  have value : Safe text (do
      forward
      emit .value) :=
    safe_forward.bind fun _ => safe_emit _
  unfold fetchValue
  refine safe_get fun scanner within => ?_
  dsimp only
  split
  · next key _ =>
      refine Safe.bind (safe_set ?_) fun _ => (safe_emitAt _ _).bind fun _ => ?_
      · exact within
      · split
        · refine (safe_addIndent _).bind fun opened => ?_
          split
          · exact (safe_emitAt _ _).bind fun _ => (safe_allowSimpleKey false).bind fun _ => value
          · exact (safe_allowSimpleKey false).bind fun _ => value
        · exact (safe_allowSimpleKey false).bind fun _ => value
  · have ends (allowed : Bool) : Safe text (do
        allowSimpleKey allowed
        removePossibleKey
        forward
        emit .value) :=
      (safe_allowSimpleKey allowed).bind fun _ => safe_removePossibleKey.bind fun _ => value
    split
    · split
      · refine (safe_addIndent _).bind fun opened => ?_
        split
        · exact (safe_emit _).bind fun _ => ends _
        · exact ends _
      · exact safe_fail_bind
    · exact ends _

theorem safe_fetchFrom (character : Char) : Safe text (fetchFrom character) := by
  unfold fetchFrom
  refine safe_get fun scanner _ => (safe_peekAt 1).bind fun next => ?_
  have between (token : Token) : Safe text (do
      endBlocks
      forwardBy 3
      emit token) :=
    safe_endBlocks.bind fun _ => (safe_forwardBy 3).bind fun _ => safe_emit _
  dsimp only
  split
  · exact safe_endBlocks.bind fun _ => safe_scanDirective.bind fun _ => safe_emit _
  · refine safe_atSeparator.bind fun begins => ?_
    split
    · exact between _
    · refine safe_atSeparator.bind fun ends => ?_
      split
      · exact between _
      · split
        · exact safe_fetchFlowStart _
        · exact safe_fetchFlowStart _
        · exact safe_fetchFlowEnd _
        · exact safe_fetchFlowEnd _
        · exact (safe_allowSimpleKey true).bind fun _ => safe_removePossibleKey.bind fun _ =>
            safe_forward.bind fun _ => safe_emit _
        · exact safe_fetchKeyCandidate (safe_scanAnchorName.bind fun _ => safe_pure _)
        · exact safe_fetchKeyCandidate (safe_scanAnchorName.bind fun _ => safe_pure _)
        · exact safe_fetchKeyCandidate safe_scanTag
        · exact safe_fetchKeyCandidate (safe_scanQuoted _)
        · exact safe_fetchKeyCandidate (safe_scanQuoted _)
        · split
          · exact safe_fetchBlockEntry
          · split
            · exact safe_fetchKey
            · split
              · exact safe_fetchValue
              · split
                · exact (safe_allowSimpleKey true).bind fun _ => safe_removePossibleKey.bind
                    fun _ => (safe_scanBlockScalar _).bind fun _ => safe_emit _
                · split
                  · exact safe_fetchKeyCandidate safe_scanPlain
                  · exact safe_fail

theorem safe_fetchAll (fuel : Nat) : Safe text (fetchAll fuel) := by
  induction fuel with
  | zero => exact safe_fail
  | succ fuel ih =>
      rw [fetchAll]
      refine safe_limit.bind fun limit => (safe_skipToToken limit).bind fun _ =>
        safe_dropStaleKeys.bind fun _ => safe_get fun scanner _ =>
        (safe_unwindIndent _).bind fun _ => safe_peek.bind fun next => ?_
      split
      · exact (safe_unwindIndent (-1)).bind fun _ => safe_removePossibleKey.bind fun _ =>
          safe_emit _
      · exact (safe_fetchFrom _).bind fun _ => ih

/-- The scanner fails only at an escape whose number is not that of a character. -/
theorem escapes_of_tokenize {fault : Fault} (failed : tokenize text = .error (.fault fault)) :
    Escapes text fault := by
  unfold tokenize at failed
  split at failed
  · rcases bind_eq_error_iff.1 failed with failed | ⟨result, -, made⟩
    · have safe := safe_fetchAll (2 * text.length + 2) { rest := text } (List.suffix_refl text)
      rwa [failed] at safe
    · cases made
  · cases failed

end Yaml

end Config

end StaticSite
