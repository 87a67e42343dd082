import SlotBinding.Token.Basic

/-!
# The text of tokens

Tokens are separated by one space, except after a punctuation character that sticks to the next
token. Braces keep a space inside, the other delimiters do not.
-/

namespace SlotBinding.Token

def openText : Delimiter → String
  | .paren => "("
  | .bracket => "["
  | .brace => "\x7b "

def closeText : Delimiter → String
  | .paren => ")"
  | .bracket => "]"
  | .brace => "\x7d"

/-- What stands between a token and the next one. -/
def gapAfter : Token → String
  | punct _ _ .joint => ""
  | _ => " "

mutual

def text : Token → String
  | word _ s => s
  | punct _ c _ => String.singleton c
  | literal _ l => l.text
  | group _ d inner =>
    openText d ++ textAll inner
      ++ (if d = .brace && !inner.isEmpty then " " else "") ++ closeText d

def textAll : List Token → String
  | [] => ""
  | [t] => text t
  | t :: rest => text t ++ gapAfter t ++ textAll rest

end

end SlotBinding.Token
