import StaticSite.Markdown.Inline.Basic
import StaticSite.Markdown.Inline.Link
import StaticSite.Markup.Entity

/-!
# The rules for inline markup

Code spans come first and escaped characters next, so that nothing within them has a meaning.
Links and images follow, then addresses, line breaks, raw markup and references, and emphasis
comes last.
-/

namespace StaticSite

namespace Markdown

namespace Inline

/-! ## Code spans -/

/-- A run of backticks, which is group 2, or pairs of backslashes in front of backticks, which
are group 1. -/
def codeStart : Pattern :=
  let outsideEscape := Pattern.behind false (· = '\\')
  let ticks := Pattern.plus (.word "`")
  .either
    (.all [outsideEscape, .group 1 (.plus (.word "\\\\")), .ahead true ticks])
    (.both outsideEscape (.group 2 ticks))

/-- A run of backticks in a text. -/
structure TickRun where
  offset : Nat
  size : Nat
  deriving DecidableEq, Repr

def tickRuns (offset : Nat) : Text → List TickRun
  | [] => []
  | character :: rest =>
    let later := tickRuns (offset + 1) rest
    if character = '`' then
      match later with
      | [] => [⟨offset, 1⟩]
      | run :: others =>
        if run.offset = offset + 1 then ⟨offset, run.size + 1⟩ :: others
        else ⟨offset, 1⟩ :: later
    else later

/-- How many backticks begin a code span, and the run of as many that ends it, if at most so
many may begin it.  The more begin it the better. -/
def closingRun? (runs : List TickRun) : (most : Nat) → Option (Nat × TickRun)
  | 0 => none
  | most + 1 =>
    match runs.find? (·.size = most + 1) with
    | some run => some (most + 1, run)
    | none => closingRun? runs most

/-- What a run of backticks begins, which ends at a place.  The run that ends a code span is
as long as the one that begins it.  If there is none but a longer one, nothing up to its first
backtick is code.  If there is no longer one either, fewer backticks begin the code span, and
the others belong to it. -/
def findCode (ticks : Text) (spot : Pattern.Spot) : Finding :=
  let runs := tickRuns 0 spot.rest
  let barrier? :=
    if runs.any (·.size = ticks.length) then none else runs.find? (ticks.length < ·.size)
  match barrier? with
  | some barrier => .passed (spot.advanceBy (barrier.offset + 1))
  | none =>
    match closingRun? runs ticks.length with
    | none => .passed spot
    | some (count, run) =>
      let code := ticks.drop count ++ spot.rest.take run.offset
      .taken (.element (Element.holding "code" (.fixed (Markup.escapeCode (Text.trim code)))))
        (spot.advanceBy (run.offset + run.size))

def codeRule : InlineRule :=
  ⟨codeStart, fun found =>
    if found.has 1 then
      return .taken (.text (Text.replace "\\\\" (Mark.escaped '\\').text (found.group 1))) found.stop
    else return findCode (found.group 2) found.stop⟩

/-! ## Characters and addresses -/

/-- The characters that a backslash takes the meaning from. -/
def escapable : Text := "\\`*_\x7b\x7d[]()>#+-.!|"

def escapeRule : InlineRule :=
  ⟨.both (.word "\\") (.group 1 .any), fun found =>
    match found.group 1 with
    | [character] =>
      if character ∈ escapable then
        return .taken (.text (Mark.escaped character).text) found.stop
      else return .passed found.stop
    | _ => return .refused⟩

/-- An address in angle brackets, which is group 1. -/
def bracketedAddress : Pattern :=
  let schemeSign := Pattern.one fun character => character.isAlphanum || character ∈ "+.-".toList
  .all
    [.word "<",
      .group 1 (.all [.one Char.isAlpha, .star schemeSign, .word "://", .star (.except "<>")]),
      .word ">"]

/-- The rule for addresses in angle brackets. -/
def addressRule : InlineRule :=
  ruleOf bracketedAddress fun found => do
    let address ← restoreText (found.group 1)
    return .element
      ((Element.holding "a" (.fixed (found.group 1))).withAttribute "href" address)

/-- An address for mail in angle brackets, which is group 1. -/
def bracketedMail : Pattern :=
  .all
    [.word "<",
      .group 1 (.all [.plus (.except "<> !"), .word "@", .plus (.except "@<> ")]),
      .word ">"]

def numbered (character : Char) : Text :=
  Mark.ampersand.text ++ "#" ++ Text.ofNat character.toNat ++ ";"

/-- A character as a reference, by its word if it has one. -/
def lettered (character : Char) : Text :=
  match Markup.letterWord? character with
  | some word => Mark.ampersand.text ++ word ++ ";"
  | none => numbered character

/-- The rule for addresses for mail: every character is written as a reference. -/
def mailRule : InlineRule :=
  ruleOf bracketedMail fun found => do
    let address ← restoreText (found.group 1)
    let address := (Text.after? "mailto:" address).getD address
    let target : Text := "mailto:" ++ address
    return .element
      ((Element.holding "a" (.fixed (address.flatMap lettered))).withAttribute "href"
        (target.flatMap numbered))

/-- The rule for line breaks: two spaces at the end of a line. -/
def breakRule : InlineRule :=
  ruleOf (.word "  \n") fun _ => return .element (Element.named "br")

/-- Characters up to one of two marks. -/
def upTo (opening closing : String) : Pattern :=
  .star (.both (.ahead false (.either (.word opening) (.word closing))) .any)

/-- A character that is none of these and no white space. -/
def visible (others : String) : Pattern :=
  let members := others.toList
  .one fun character => ! Text.isBlank character && character ∉ members

/-- The value of an attribute, in quotes or bare. -/
def attributeValue : Pattern :=
  .anyOf
    [.all [.word "'", .star (.except "'"), .word "'"],
      .all [.word "\"", .star (.except "\""), .word "\""],
      .plus (visible "\"'=<>`")]

/-- An attribute of a tag with the white space in front of it. -/
def attributeOfTag : Pattern :=
  .all
    [.plus (.one Text.isBlank), .plus (visible "\"'<>/="),
      .maybe (.all [.blanks, .word "=", .blanks, attributeValue])]

def tagBody : Pattern :=
  .all
    [.maybe (.word "/"), .one Char.isAlpha, .star (visible "<>@"), .star attributeOfTag, .blanks,
      .maybe (.word "/")]

/-- A tag, a comment, an instruction or a section of literal text, which is group 1. -/
def rawMarkup : Pattern :=
  .group 1 (.all
    [.word "<",
      .anyOf
        [tagBody,
          .all [.word "!--", upTo "<!--" "-->", .word "--"],
          .all [.word "?", upTo "<?" "?>", .word "?"],
          .all [.word "![CDATA[", upTo "<![CDATA[" "]]>", .word "]]"]],
      .word ">"])

/-- A reference, which is group 1. -/
def reference : Pattern := .group 1 (.both (.word "&") Element.referenceEnd)

/-- The rule for raw markup of a form: it is kept as it is. -/
def rawRule (pattern : Pattern) : InlineRule :=
  ruleOf pattern fun found => do
    return .text (← keepRaw (← restoreSource (found.group 1)))

/-- The rules in the order in which they are used. -/
def rules : List InlineRule :=
  [codeRule, escapeRule, namedRule .link, targetRule .link, targetRule .image, namedRule .image,
    shortRule .link, shortRule .image, addressRule, mailRule, breakRule, rawRule rawMarkup,
    rawRule reference]

end Inline

end Markdown

end StaticSite
