import RowDecl.Command.Run

/-! # The command line

The command on the file system. What the arguments may refer to is read into a store, the command
runs on the store, and what it changed is put back: directories first, each file beside its place
and then moved there. -/

namespace RowDecl.Command

/-- Reads the node at an address, and those on the way to it, into a store. A file whose bytes are
not given out may not be read. -/
def readNode (s : Store) (a : Address) : IO Store := do
  let root ← IO.currentDir
  let mut s := s
  for n in [1:a.length + 1] do
    let here := a.take n
    let path := root / Address.text here
    if ← path.isDir then
      s := s.put here .directory
    else if ← path.pathExists then
      match ← (IO.FS.readBinFile path).toBaseIO with
      | .ok content => s := s.put here (.file content)
      | .error _ =>
        s := s.put here (.file ByteArray.empty)
        s := { s with unreadable := here :: s.unreadable }
  return s

/-- The addresses that arguments may refer to. -/
def mentioned (cwd : Address) (args : List String) : List Address :=
  match Arguments.read? args with
  | none => []
  | some a => (a.paths ++ a.given.map (·.2)).map fun p => (Route.parse p).resolve cwd

/-- Puts a node of a store into the file system. -/
def commitNode (a : Address) (n : Node) : IO Unit := do
  let root ← IO.currentDir
  match n with
  | .directory => IO.FS.createDirAll (root / Address.text a)
  | .file content =>
    let temporary := root / Address.text (a.dropLast ++ ["." ++ nameOf a ++ ".tmp"])
    IO.FS.writeBinFile temporary content
    IO.FS.rename temporary (root / Address.text a)

/-- The order in which nodes are put back: shorter addresses first. -/
def commitOrder (nodes : List (Address × Node)) : List (Address × Node) :=
  nodes.mergeSort fun a b => a.1.length ≤ b.1.length

end RowDecl.Command

open RowDecl RowDecl.Command in
def main (args : List String) : IO UInt32 := do
  let cwd := (Route.parse (← IO.currentDir).toString).resolve []
  let before ← (cwd :: mentioned cwd args).foldlM readNode Store.empty
  let result := Command.run .standard before cwd args
  for (a, n) in commitOrder (result.store.changedSince before) do
    commitNode a n
  match result.ending with
  | .help => IO.print result.output
  | _ => IO.eprint result.output
  match result.ending with
  | .usage => IO.eprintln ("Usage: " ++ commandName ++ " [OPTIONS] CATALOG OUTPUT")
  | .escaped e => IO.eprintln e.message
  | _ => pure ()
  return UInt32.ofNat result.ending.exitCode
