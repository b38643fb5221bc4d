import HardwareReport.Linux.Attribute
import HardwareReport.Sound
import HardwareReport.Text.Natural
import HardwareReport.Text.Split

/-!
# Linux — sound cards

The kernel lists sound cards in a text file, with a line such as ` 0 [PCH ]: HDA-Intel - HDA Intel
PCH` for each, and keeps more about every card in a directory of its own.
-/

namespace HardwareReport.Linux

open FileTree

/-- A card on the list. -/
structure AsoundCard where
  index : UInt32
  driver : String
  name : String
  deriving DecidableEq, Repr

/-- The card that a line of the list tells of, if it tells of one. -/
def asoundCard? (line : List Char) : Option AsoundCard := do
  let (number, rest) ← Text.splitOnce? [' '] (line.dropWhile Text.isBlank)
  let index ← (Text.readUInt32 number).toOption
  let (_, description) ← Text.splitOnce? [']', ':'] rest
  let (driver, name) ← Text.splitOnce? [' ', '-', ' '] description
  return ⟨index, Text.trimmed driver, Text.trimmed name⟩

/-- The cards on a list. -/
def asoundCards (text : String) : List AsoundCard :=
  (Text.lines text.toList).filterMap asoundCard?

/-- The codec that a description of one names. -/
def codecIn? (text : String) : Option String :=
  (Text.lines text.toList).findSome? fun line =>
    (Text.dropStart? "Codec:".toList line).map Text.trimmed

/-- The codec named by the first of the files that names one. -/
def firstCodec (tree : Node) (directory : Path) : List String → Answer String
  | [] => .ok ""
  | name :: rest =>
    match readAttribute tree (directory ++ [name]) with
    | .error error => .error error
    | .ok contents =>
      match contents.bind codecIn? with
      | some codec => .ok codec
      | none => firstCodec tree directory rest

/-- Whether a name is that of a file that describes a codec. -/
def isCodecFile (name : String) : Bool :=
  "codec#".toList.isPrefixOf name.toList

/-- The codec of the card in a directory. -/
def asoundCodec (tree : Node) (directory : Path) : Answer String := do
  firstCodec tree directory ((← sortedNames tree directory).filter isCodecFile)

/-- A card on the list as reported. -/
def reportCard (tree : Node) (root : Path) (driverVersion : String) (card : AsoundCard) :
    Answer SoundCard := do
  let codec ← asoundCodec tree (root ++ ["card" ++ toString card.index.toNat])
  return { driverVersion, name := card.driver ++ " " ++ card.name, codec }

/-- The sound cards listed below `root`. -/
def soundCards (tree : Node) (root : Path) : Answer (List SoundCard) := do
  match ← readAttribute tree (root ++ ["cards"]) with
  | none => return []
  | some list =>
    let driverVersion ← attributeText tree (root ++ ["version"])
    (asoundCards list).mapM (reportCard tree root driverVersion)

end HardwareReport.Linux
