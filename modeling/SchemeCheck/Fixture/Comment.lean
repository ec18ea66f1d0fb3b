import SchemeCheck.Text.Basic
set_option autoImplicit false

namespace SchemeCheck

inductive CommentOpener where
  | slashes
  | hash
  | block
  | markup
  | dashes
  deriving DecidableEq

namespace CommentOpener

def text : CommentOpener → Text
  | slashes => ['/', '/']
  | hash => ['#']
  | block => ['/', '*']
  | markup => ['<', '!', '-', '-']
  | dashes => ['-', '-']

def all : List CommentOpener := [slashes, hash, block, markup, dashes]

/-- The opener a text begins with, and what follows it. No opener begins another. -/
def read? (t : Text) : Option (CommentOpener × Text) :=
  all.findSome? fun o => (Text.after? o.text t).map fun rest => (o, rest)

end CommentOpener
end SchemeCheck
