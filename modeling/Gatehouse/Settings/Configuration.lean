import Gatehouse.Settings.Basic

/- The settings of a program that runs the service. What it requires of annotations may be given with patterns in
   bytes: a pattern is checked as it was given and then kept as a text. The texts that are kept are compiled again when
   the service is made. -/
namespace Gatehouse

/-- A pattern as it is given: a value of a source, or bytes. -/
inductive GivenPattern where
  | value (json : Json)
  | bytes (content : ByteArray)

abbrev GivenPatterns := List (String × GivenPattern)

namespace GivenPattern

-- Each byte as the character of its number.
def told (content : ByteArray) : String := String.ofList (content.data.toList.map fun byte => Char.ofNat byte.toNat)

-- Failures of bytes are told in the characters of ASCII.
def shown (text : String) : String :=
  String.ofList (text.toList.flatMap fun c => if c.toNat < 128 then [c] else '\\' :: 'x' :: Text.hex 2 c.toNat)

def check (machine : Machine) : String × GivenPattern → Attempt Unit
  | (key, .value json) => ( RequiredAnnotation.check machine (key, json)).map fun checked => checked.map fun _ => ()
  | (key, .bytes content) =>
    (Pattern.checked key (fun invalid => shown (invalid.message (told content)))
      (machine.compileBytes .checkBytes (told content))).map fun checked => checked.map fun _ => ()

def text : GivenPattern → Checked String
  | .value json => (Format.text.read json).bind keptText
  | .bytes content =>
    match Utf8.decode content with
    | .ok text => .ok text
    | .error _ => Checked.fault .notUnicode

def kept : String × GivenPattern → Checked (String × String)
  | (key, given) => keptEntry key given.text

-- All patterns are compiled before any text is kept.
def readAll (machine : Machine) (patterns : GivenPatterns) : Attempt (List (String × String)) :=
  (Attempt.each (check machine) patterns).map fun checked =>
    checked.bind fun _ => Checked.all (patterns.map kept)

def values (members : Members) : GivenPatterns := members.map fun (key, json) => (key, .value json)

-- One pattern laid on another.
def cover : Option GivenPattern → GivenPattern → GivenPattern
  | some (.value low), .value json => .value (low.overlay json)
  | _, given => given

def laid (low : GivenPatterns) : GivenPatterns → GivenPatterns
  | [] => low
  | (key, given) :: rest => laid (put low key (cover (lastOf low key) given)) rest

-- Anything but members is covered by patterns that are given.
def valuesIn : Option Json → GivenPatterns
  | some (.object members) => values members
  | _ => []

end GivenPattern

/-- Sources, and the patterns of the required annotations when they are given one by one. -/
structure Offer where
  sources : Sources
  patterns : Option GivenPatterns

-- The patterns that are given, laid on those of the environment and of the file of variables.
def Offer.gathered (offer : Offer) (patterns : GivenPatterns) : GivenPatterns :=
  let environment := GivenPattern.valuesIn (offer.sources.inEnvironment "required_annotations")
  let file := GivenPattern.valuesIn (offer.sources.inFile "required_annotations")
  GivenPattern.laid file (GivenPattern.laid environment patterns)

-- An annotation without the pattern that its text compiled to.
def RequiredAnnotation.written (required : RequiredAnnotation) : String × String := (required.key, required.text)

/-- Settings that were accepted. The patterns of the required annotations are had as texts. -/
structure Configuration where
  server : ServerSettings
  ignored : Namespaces
  provider : CloudProvider
  required : List (String × String)

namespace Configuration

def ofSettings (settings : Settings) : Configuration :=
  ⟨settings.server, settings.ignored, settings.provider, settings.required.map RequiredAnnotation.written⟩

def join (parts : ServerSettings.Parts × Namespaces × CloudProvider × List (String × String)) :
    Checked Configuration :=
  parts.1.join.map fun server => ⟨server, parts.2.1, parts.2.2.1, parts.2.2.2⟩

def load (offer : Offer) : Except SettingsFailure Configuration :=
  match offer.patterns with
  | none => (Settings.load offer.sources).map ofSettings
  | some patterns => do
    let members ← offer.sources.members Settings.fieldNames
    let required := GivenPattern.readAll offer.sources.machine (offer.gathered patterns)
    match Settings.readWith offer.sources.directory members (required.under "required_annotations") with
    | .error cause => .error (.broken cause)
    | .ok checked => (titled Settings.title (checked.bind join)).mapError .invalid

/- The texts when they are to be used -/

def compiledTexts (machine : Machine) :
    List (String × String) → Except (Halt PatternText.Invalid) (List RequiredAnnotation)
  | [] => .ok []
  | (key, text) :: rest => do
    let pattern ← machine.compile .use text
    let others ← compiledTexts machine rest
    return ⟨key, text, pattern⟩ :: others

-- The settings that the service is made of.
def compiled (machine : Machine) (configuration : Configuration) : Except (Halt PatternText.Invalid) Settings :=
  (compiledTexts machine configuration.required).map fun required =>
    ⟨configuration.server, configuration.ignored, configuration.provider, required⟩

-- One predicate for each required annotation.
def predicates (machine : Machine) (configuration : Configuration) :
    Except (Halt PatternText.Invalid) Policy.Requirements :=
  (configuration.compiled machine).map Settings.requirements

end Configuration
end Gatehouse
