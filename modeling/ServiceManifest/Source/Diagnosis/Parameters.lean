import ServiceManifest.Source.Diagnosis.Reader

/-!
# Parameters of a lambda

The parameters between the word `lambda` and the colon, and the mistakes that are made with them:
those without a default cannot follow those with one, the slash stands once, behind some parameter
and before the star, and two stars come last.
-/

namespace ServiceManifest.Source.Diagnosis

/-- The comma behind a parameter, or the colon behind the last one, which is not taken. -/
def parameterEnd : Inquiry Unit := mark "," <|> present (mark ":")

/-- A default value. -/
def defaultValue (next : Rule → Inquiry Phrase) : Inquiry Unit :=
  (do
    mark "="
    let _ ← next .expression) <|>
  searching (mistakes [do
    mark "="
    present (oneOf [")", ","])
    return some (.parameters .noDefault)])

/-- A parameter without a default. -/
def bareParameter : Inquiry Unit := do
  let _ ← name
  parameterEnd

/-- A parameter with a default. -/
def defaultedParameter (next : Rule → Inquiry Phrase) : Inquiry Unit := do
  let _ ← name
  defaultValue next
  parameterEnd

/-- A parameter that may have a default. -/
def anyParameter (next : Rule → Inquiry Phrase) : Inquiry Unit := do
  let _ ← name
  let _ ← optional (defaultValue next)
  parameterEnd

/-- The slash and what follows it. -/
def slash : Inquiry Unit := do
  mark "/"
  parameterEnd

/-- Parameters without a default, and the slash. -/
def bareBeforeSlash : Inquiry Unit := do
  let _ ← oneOrMore bareParameter
  slash

/-- Parameters of which the last have a default, and the slash. -/
def defaultedBeforeSlash (next : Rule → Inquiry Phrase) : Inquiry Unit := do
  let _ ← many bareParameter
  let _ ← oneOrMore (defaultedParameter next)
  slash

/-- Two stars and the last parameter. -/
def doubleStarParameter : Inquiry Unit :=
  searching (mistakes [
    do mark "**"; let _ ← name; mark "="; return some (.parameters .starsDefault),
    do
      mark "**"
      let _ ← name
      mark ","
      let _ ← name
      return some (.parameters .behindStars),
    do
      mark "**"
      let _ ← name
      mark ","
      let _ ← oneOf ["*", "**", "/"]
      return some (.parameters .behindStars)]) <|>
  (do mark "**"; bareParameter)

/-- The star and what follows it. -/
def starParameters (next : Rule → Inquiry Phrase) : Inquiry Unit :=
  searching (mistakes [
    do
      mark "*"
      mark ":" <|> (do
        mark ","
        let _ ← oneOf [":", "**"])
      return some (.parameters .bareStar),
    do mark "*"; let _ ← name; mark "="; return some (.parameters .starDefault),
    do
      mark "*"
      bareParameter <|> mark ","
      let _ ← many (anyParameter next)
      mark "*"
      bareParameter <|> mark ","
      return some (.parameters .starTwice)]) <|>
  (do
    mark "*"
    bareParameter
    let _ ← many (anyParameter next)
    let _ ← optional doubleStarParameter) <|>
  (do
    mark "*"
    mark ","
    let _ ← oneOrMore (anyParameter next)
    let _ ← optional doubleStarParameter) <|>
  doubleStarParameter

/-- The mistakes that are made with parameters. -/
def parameterMistakes (next : Rule → Inquiry Phrase) : Inquiry Unit :=
  let beforeSlash := bareBeforeSlash <|> defaultedBeforeSlash next
  mistakes [
    do
      let _ ← many bareParameter
      defaultedBeforeSlash next <|> (do let _ ← oneOrMore (defaultedParameter next))
      bareParameter
      return some (.parameters .defaultFirst),
    do
      let _ ← many bareParameter
      mark "("
      let _ ← listed name
      comma?
      mark ")"
      return some (.parameters .parenthesised),
    do mark "/"; mark ","; return some (.parameters .slashFirst),
    do
      beforeSlash
      let _ ← many (anyParameter next)
      mark "/"
      return some (.parameters .slashTwice),
    do
      let _ ← optional beforeSlash
      let _ ← many (anyParameter next)
      mark "*"
      mark "," <|> bareParameter
      let _ ← many (anyParameter next)
      mark "/"
      return some (.parameters .slashBehindStar),
    do
      let _ ← oneOrMore (anyParameter next)
      mark "/"
      mark "*"
      return some (.parameters .noCommaBeforeStar)]

/-- Parameters. -/
def parameters (next : Rule → Inquiry Phrase) : Inquiry Unit :=
  let bare := many bareParameter
  let defaulted := many (defaultedParameter next)
  let star := optional (starParameters next)
  searching (parameterMistakes next) <|>
  (do bareBeforeSlash; let _ ← bare; let _ ← defaulted; let _ ← star) <|>
  (do defaultedBeforeSlash next; let _ ← defaulted; let _ ← star) <|>
  (do let _ ← oneOrMore bareParameter; let _ ← defaulted; let _ ← star) <|>
  (do let _ ← oneOrMore (defaultedParameter next); let _ ← star) <|>
  starParameters next

end ServiceManifest.Source.Diagnosis
