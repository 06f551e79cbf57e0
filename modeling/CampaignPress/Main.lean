/-
This file is the program. It takes a picture of the files that standard input
names, one path a line and folders with a slash at the end, runs the command on
the picture, and writes the files that the command has made.
-/
import CampaignPress.Command

open CampaignPress

/-! ### The picture -/

/-- The place, in a picture, of the folder that the program runs in. -/
def workPlace : List Text := [['.']]

/-- The picture with what a line names. -/
def takeIn (files : Files) (line : Text) : IO Files := do
  let place := files.absolute (Path.ofText line)
  if Text.endsWith line "/" then return files.put place .folder
  let content ← IO.FS.readBinFile (String.ofList line)
  let above := (List.range place.length).foldl (fun (files : Files) length =>
    files.put (place.take length) .folder) files
  return above.put place (.file content.toList)

partial def takeLines (input : IO.FS.Stream) (files : Files) : IO Files := do
  let line ← input.getLine
  if line.isEmpty then return files
  let name := Text.dropEnd (· = '\n') line.toList
  takeLines input (← if name.isEmpty then pure files else takeIn files name)

/-! ### Writing -/

/-- The path of a place of a picture. -/
def pathOf (place : List Text) : Path :=
  if workPlace.isPrefixOf place then { root := [], names := place.drop workPlace.length }
  else { root := ['/'], names := place }

/-- Writes what a place holds, unless it was there before. -/
def giveOut (before : Files) (place : List Text) (entry : Entry) : IO Unit := do
  if before.at? place = some entry then return
  let path := String.ofList (pathOf place).toText
  match entry with
  | .folder => IO.FS.createDirAll path
  | .file content => IO.FS.writeBinFile path content.toByteArray

def main (words : List String) : IO UInt32 := do
  let start : Files := { base := workPlace, entries := [(workPlace, .folder)] }
  let before ← takeLines (← IO.getStdin) start
  let (answer, after) := (Command.answer (words.map String.toList)).run before
  for (place, entry) in after.entries do giveOut before place entry
  IO.print (String.ofList answer.out)
  for line in answer.err do IO.eprintln (String.ofList line)
  return UInt32.ofNat answer.code
