import StaticSite.Text.Basic

/-!
# Escapes in markup

The five characters with a meaning of their own in markup are written as references, in
text and within quoted attributes alike.  In code quotes stay as they are.
-/

namespace StaticSite

namespace Markup

def escapeChar (character : Char) : Text :=
  if character = '&' then "&amp;"
  else if character = '<' then "&lt;"
  else if character = '>' then "&gt;"
  else if character = '"' then "&quot;"
  else if character = '\x27' then "&#x27;"
  else [character]

def escape (text : Text) : Text := text.flatMap escapeChar

def escapeCodeChar (character : Char) : Text :=
  if character = '&' then "&amp;"
  else if character = '<' then "&lt;"
  else if character = '>' then "&gt;"
  else [character]

def escapeCode (text : Text) : Text := text.flatMap escapeCodeChar

end Markup

end StaticSite
