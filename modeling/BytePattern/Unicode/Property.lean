/-
The properties that a pattern can name.
-/
import BytePattern.Unicode.Age
import BytePattern.Unicode.GraphemeBreak
import BytePattern.Unicode.SentenceBreak

namespace BytePattern

/-- The name of a property or of a value without case, separators and a leading `is`. -/
def plainName (name : List Char) : String :=
  let (stripped, bare) := match name with
    | i :: s :: rest =>
      if i.toLower = 'i' ∧ s.toLower = 's' then (true, rest) else (false, name)
    | _ => (false, name)
  let kept := bare.filter fun c => c.toNat < 128 && c != ' ' && c != '_' && c != '-'
  let plain := kept.map Char.toLower
  if stripped ∧ plain = ['c'] then "isc" else String.ofList plain

/-- What stands beside a name in a table of names. -/
def named? {α : Type} (table : List (List String × α)) (plain : String) : Option α :=
  (table.find? (·.1.contains plain)).map (·.2)

/-- The properties without values by their names. -/
def binaryProperties : List (List String × IntervalSet) :=
  [(["ahex", "asciihexdigit"], asciiHexDigit),
   (["alpha", "alphabetic"], alphabetic),
   (["bidic", "bidicontrol"], bidiControl),
   (["bidim", "bidimirrored"], mirrored),
   (["cased"], cased),
   (["ci", "caseignorable"], caseIgnorable),
   (["cwcf", "changeswhencasefolded"], changedByFolding),
   (["cwcm", "changeswhencasemapped"], changedByCase),
   (["cwl", "changeswhenlowercased"], changedByLowering),
   (["cwt", "changeswhentitlecased"], changedByTitling),
   (["cwu", "changeswhenuppercased"], changedByRaising),
   (["dash"], dash),
   (["dep", "deprecated"], deprecated),
   (["di", "defaultignorablecodepoint"], defaultIgnorable),
   (["dia", "diacritic"], diacritic),
   (["ebase", "emojimodifierbase"], emojiModifierBase),
   (["ecomp", "emojicomponent"], emojiComponent),
   (["emod", "emojimodifier"], emojiModifier),
   (["emoji"], emoji),
   (["epres", "emojipresentation"], emojiPresentation),
   (["ext", "extender"], extender),
   (["extpict", "extendedpictographic"], extendedPictographic),
   (["grbase", "graphemebase"], graphemeBase),
   (["grext", "graphemeextend"], graphemeExtender),
   (["grlink", "graphemelink"], graphemeLink),
   (["hex", "hexdigit"], hexDigit),
   (["hyphen"], hyphen),
   (["idc", "idcontinue"], idContinue),
   (["idcompatmathcontinue"], idCompatMathContinue),
   (["idcompatmathstart"], idCompatMathStart),
   (["ideo", "ideographic"], ideographic),
   (["ids", "idstart"], idStart),
   (["idsb", "idsbinaryoperator"], idsBinaryOperator),
   (["idst", "idstrinaryoperator"], idsTrinaryOperator),
   (["idsu", "idsunaryoperator"], idsUnaryOperator),
   (["joinc", "joincontrol"], joinControl),
   (["loe", "logicalorderexception"], logicalOrderException),
   (["lower", "lowercase"], lowerCase),
   (["math"], math),
   (["mcm", "modifiercombiningmark"], modifierCombiningMark),
   (["nchar", "noncharactercodepoint"], noncharacter),
   (["oalpha", "otheralphabetic"], otherAlphabetic),
   (["odi", "otherdefaultignorablecodepoint"], otherDefaultIgnorable),
   (["ogrext", "othergraphemeextend"], otherGraphemeExtend),
   (["oidc", "otheridcontinue"], otherIdContinue),
   (["oids", "otheridstart"], otherIdStart),
   (["olower", "otherlowercase"], otherLowercase),
   (["omath", "othermath"], otherMath),
   (["oupper", "otheruppercase"], otherUppercase),
   (["patsyn", "patternsyntax"], patternSyntax),
   (["patws", "patternwhitespace"], patternWhiteSpace),
   (["pcm", "prependedconcatenationmark"], prependedConcatenationMark),
   (["qmark", "quotationmark"], quotationMark),
   (["radical"], radical),
   (["ri", "regionalindicator"], regionalIndicator),
   (["sd", "softdotted"], softDotted),
   (["sterm", "sentenceterminal"], sentenceTerminal),
   (["term", "terminalpunctuation"], terminalPunctuation),
   (["uideo", "unifiedideograph"], unifiedIdeograph),
   (["upper", "uppercase"], upperCase),
   (["vs", "variationselector"], variationSelector),
   (["wspace", "space", "whitespace"], whiteSpace),
   (["xidc", "xidcontinue"], xidContinue),
   (["xids", "xidstart"], xidStart)]

/-- The characters of a general category. -/
def categorySet? (plain : String) : Option IntervalSet :=
  match plain with
  | "any" => some (.range 0 lastScalar)
  | "ascii" => some (.range 0 0x7F)
  | "assigned" => some ((ofCategories ["Cn"]).complement lastScalar)
  | _ => (named? categoryNames plain).map ofCategories

/-- The characters with a value of a property. -/
def valueSet? (property value : String) : Option IntervalSet :=
  match property with
  | "gc" | "generalcategory" => categorySet? value
  | "sc" | "script" => (named? scriptNames value).map ofScript
  | "scx" | "scriptextensions" => (named? scriptNames value).map usedInScript
  | "age" => ageSet? value
  | "gcb" | "graphemeclusterbreak" => named? GraphemeBreak.classes value
  | "wb" | "wordbreak" => named? WordBreak.classes value
  | "sb" | "sentencebreak" => named? SentenceBreak.classes value
  | _ => none

/-- A property name cut at the first sign between name and value: what comes before and after it,
and whether the sign denies. -/
def splitProperty (before : List Char) : List Char → Option (List Char × List Char × Bool)
  | '!' :: '=' :: rest => some (before.reverse, rest, true)
  | c :: rest =>
    if c = ':' ∨ c = '=' then some (before.reverse, rest, false)
    else splitProperty (c :: before) rest
  | [] => none

/-- The characters that a property in a pattern names, and whether it names all the others. -/
def propertySet? (name : String) : Option (IntervalSet × Bool) :=
  match splitProperty [] name.toList with
  | none =>
    let plain := plainName name.toList
    (named? binaryProperties plain <|> categorySet? plain <|> valueSet? "sc" plain).map (·, false)
  | some (property, value, negated) =>
    (valueSet? (plainName property) (plainName value)).map (·, negated)

end BytePattern
