import ServiceManifest.Source.Fault

/-!
# Faults of expressions

Why a text that should be an expression is none. Besides the faults of its tokens these are the
usual mistakes, each told by the place in the grammar at which it is made; what is no usual mistake
is a fault without further reason.
-/

namespace ServiceManifest.Source

/-- What can be wrong with the parameters of a lambda. -/
inductive ParameterFault
  | defaultFirst
  | parenthesised
  | slashFirst
  | slashTwice
  | slashBehindStar
  | noCommaBeforeStar
  | bareStar
  | starDefault
  | starTwice
  | starsDefault
  | behindStars
  | noDefault
  deriving DecidableEq, Repr

/-- The wording of a fault of parameters. -/
def ParameterFault.message : ParameterFault → String
  | .defaultFirst => "non-default argument follows default argument"
  | .parenthesised => "Lambda expression parameters cannot be parenthesized"
  | .slashFirst => "at least one argument must precede /"
  | .slashTwice => "/ may appear only once"
  | .slashBehindStar => "/ must be ahead of *"
  | .noCommaBeforeStar => "expected comma between / and *"
  | .bareStar => "named arguments must follow bare *"
  | .starDefault => "var-positional argument cannot have default value"
  | .starTwice => "* argument may appear only once"
  | .starsDefault => "var-keyword argument cannot have default value"
  | .behindStars => "arguments cannot follow var-keyword argument"
  | .noDefault => "expected default value expression"

/-- What can be wrong with the arguments of a call. -/
inductive ArgumentOrderFault
  | starBehindStars
  | generator
  | behindUnpacked
  | behindNamed
  | assignment
  deriving DecidableEq, Repr

/-- The wording of a fault of arguments. -/
def ArgumentOrderFault.message : ArgumentOrderFault → String
  | .starBehindStars => "iterable argument unpacking follows keyword argument unpacking"
  | .generator => "Generator expression must be parenthesized"
  | .behindUnpacked => "positional argument follows keyword argument unpacking"
  | .behindNamed => "positional argument follows keyword argument"
  | .assignment => "expression cannot contain assignment, perhaps you meant \x22==\x22?"

/-- What can be wrong with what is written in brackets. -/
inductive DisplayFault
  | unpackedComprehension
  | bareTarget
  | unpackedDictionary
  | starred
  | doubleStarred
  | starredValue
  | noValue
  | noColon
  deriving DecidableEq, Repr

/-- The wording of a fault in brackets. -/
def DisplayFault.message : DisplayFault → String
  | .unpackedComprehension => "iterable unpacking cannot be used in comprehension"
  | .bareTarget => "did you forget parentheses around the comprehension target?"
  | .unpackedDictionary => "dict unpacking cannot be used in dict comprehension"
  | .starred => "cannot use starred expression here"
  | .doubleStarred => "cannot use double starred expression here"
  | .starredValue => "cannot use a starred expression in a dictionary value"
  | .noValue => "expression expected after dictionary key and \x27:\x27"
  | .noColon => "\x27:\x27 expected after dictionary key"

/-- Why a text is no expression. -/
inductive SyntaxFault
  | lexical (fault : LexicalFault)
  | literal (fault : LiteralFault)
  | mixedLiterals
  | embedded (fault : SyntaxFault)
  | indented
  | parameters (fault : ParameterFault)
  | arguments (fault : ArgumentOrderFault)
  | display (fault : DisplayFault)
  | unassignable (title : String)
  | equalsSign
  | equalsSignBehind (title : String)
  | binding (title : String)
  | statement (word : String)
  | noComma
  | noElse
  | general
  deriving DecidableEq, Repr

namespace SyntaxFault

/-- Whether a fault is one of tokens, also inside of formatted literals. -/
def isLexical : SyntaxFault → Bool
  | lexical _ => true
  | embedded fault => fault.isLexical
  | _ => false

/-- The wording of a fault. One of an expression inside of a formatted literal says so, unless it is
a fault of tokens. -/
def message : SyntaxFault → String
  | lexical fault => fault.message
  | literal fault => fault.message
  | mixedLiterals => "cannot mix bytes and nonbytes literals"
  | embedded fault => if fault.isLexical then fault.message else "f-string: " ++ fault.message
  | indented => "unexpected indent"
  | parameters fault => fault.message
  | arguments fault => fault.message
  | display fault => fault.message
  | unassignable title => "cannot assign to " ++ title
  | equalsSign =>
    "invalid syntax. Maybe you meant \x27==\x27 or \x27:=\x27 instead of \x27=\x27?"
  | equalsSignBehind title =>
    "cannot assign to " ++ title ++ " here. Maybe you meant \x27==\x27 instead of \x27=\x27?"
  | binding title => "cannot use assignment expressions with " ++ title
  | statement word =>
    "Missing parentheses in call to \x27" ++ word ++ "\x27. Did you mean " ++ word ++ "(...)?"
  | noComma => "invalid syntax. Perhaps you forgot a comma?"
  | noElse => "expected \x27else\x27 after \x27if\x27 expression"
  | general => "invalid syntax"

end SyntaxFault

end ServiceManifest.Source
