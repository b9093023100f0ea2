import StaticSite.Dictionary
import StaticSite.FrontMatter.Token

/-!
# Documents

A document is a header of keys and values between two bars, and the body after the second
bar.  The header is read from the tokens of the document, so that of two faults the one
that is met first is reported.
-/

namespace StaticSite

/-- The keys of a header with their values. -/
abbrev Fields := Dictionary Text

namespace Fields

/-- The value of a key; a key that is absent has the empty value. -/
def value (fields : Fields) (key : Text) : Text := fields.getD key []

/-- The description that keeps a page out of every index. -/
def noIndexMark : Text := "no-index"

/-- Whether a page asks to be kept out of every index. -/
def isNoIndex (fields : Fields) : Bool := fields.value "desc" == noIndexMark

def isDraft (fields : Fields) : Bool := fields.getD "draft" "false" == "true".toList

end Fields

namespace FrontMatter

/-- The fields of a header and the offset at which the body begins. -/
structure Header where
  fields : Fields
  bodyOffset : Nat

/-- A header with the body of its document. -/
structure Document where
  header : Header
  body : Text

def Token.place (token : Token) (name : Text) : Place :=
  ⟨some name, some token.line, some token.column⟩

/-- Read pairs up to the closing bar.  `fault` is what ended the tokens. -/
def readPairs (name : Text) (fault : Option Fault) (fields : Fields) :
    List Token → Except Fault Header
  | [] => .error (fault.getD (.parse .noClosingBar ⟨some name, none, none⟩))
  | token :: rest =>
    match token.kind with
    | .bar => .ok ⟨fields, token.stop⟩
    | .lineFeed => readPairs name fault fields rest
    | .text =>
      match rest with
      | [] => .error (fault.getD (.parse .noClosingBar ⟨some name, none, none⟩))
      | value :: rest =>
        if value.kind = .pairValue then
          readPairs name fault (fields.put token.value value.value) rest
        else .error (.parse .noPair (value.place name))
    | .pairValue | .endOfText => .error (.parse .noClosingBar (token.place name))

def readHeader (name : Text) (stream : TokenStream) : Except Fault Header :=
  match stream.tokens with
  | [] => .error (stream.fault.getD (.parse .noOpeningBar ⟨some name, none, none⟩))
  | token :: rest =>
    if token.kind = .bar then readPairs name stream.fault ∅ rest
    else .error (.parse .noOpeningBar (token.place name))

/-- Read a document: its header, and the text after the closing bar. -/
def readDocument (name text : Text) : Except Fault Document := do
  let header ← readHeader name (tokenize name text)
  return ⟨header, text.drop header.bodyOffset⟩

end FrontMatter

end StaticSite
