import Phrasebook.Catalog.Asset
import Phrasebook.Catalog.Reader
import Phrasebook.Catalog.Summary
import Phrasebook.Log.Event
import Phrasebook.Request.Basic
import Phrasebook.Run.Failure
import Phrasebook.Table

/-!
# `Phrasebook.Run.Basic`: carrying a request out

A run reads the input file, understands it, and comes to an `Action`: to print a
text or to save one. All of this is a function of the request and of what reading
the file gave (`Request.respond`). Only then is anything written, so a run that
fails has changed nothing.

`Request.run` carries a request out on a file tree.
-/

set_option autoImplicit false

namespace Phrasebook

/-- A result, or a failure, with the events that were raised on the way. -/
structure Logged (α : Type) where
  events : List Event
  result : Except Failure α

/-- Goes on with the result, if there is one. -/
def Logged.andThen {α β : Type} (first : Logged α) (next : α → Logged β) :
    Logged β :=
  match first.result with
  | .error failure => ⟨first.events, .error failure⟩
  | .ok value => ⟨first.events ++ (next value).events, (next value).result⟩

/-- What a request comes down to. -/
inductive Action where
  /-- Print a text. -/
  | print (text : String)
  /-- Save a text, made from so many records, to a path. -/
  | save (path text : String) (records : Nat)
deriving DecidableEq, Repr

/-- The catalog in the file that a path names, given what reading it gave. -/
def load (path : String) (content : Except FileFault ByteArray) :
    Logged Catalog :=
  match content with
  | .error fault => ⟨[], .error (.unreadable path fault)⟩
  | .ok bytes =>
    match String.fromUTF8? bytes with
    | none => ⟨[], .error (.unreadable path .notText)⟩
    | some source =>
      let read := Event.sourceRead path bytes.size
      match Catalog.parse source with
      | .error rejection =>
        ⟨read :: rejection.warnings.map .duplicate,
          .error (.malformed path rejection)⟩
      | .ok ⟨catalog, warnings⟩ =>
        ⟨read :: warnings.map .duplicate ++ [.catalogParsed catalog.records.length],
          .ok catalog⟩

/-- A catalog as an artifact. -/
def Format.render (format : Format) (options : Cascade.Options)
    (catalog : Catalog) : String :=
  match format with
  | .c => Cascade.source options catalog
  | .json => catalog.asset

namespace Request

/-- Turns a catalog into an artifact. The names are checked for every
format. -/
def generate (request : Request) (catalog : Catalog) : Except Failure Action :=
  match Cascade.Options.ofNames request.function request.langName
      request.activeLang with
  | .error invalid => .error (.invalidIdentifier invalid)
  | .ok options =>
    let text := request.format.render options catalog
    match request.output with
    | none => .ok (.print text)
    | some path => .ok (.save path text catalog.records.length)

/-- What is to be done, once the catalog is known. -/
def plan (request : Request) (catalog : Catalog) : Logged Action :=
  match request.task with
  | .generate => ⟨[], request.generate catalog⟩
  | .check => ⟨[], .ok (.print catalog.summary)⟩
  | .lookup message lang =>
    let table := Table.ofCatalog catalog
    ⟨(if table.isEmpty then [.tableEmpty] else []) ++ [.tableBuilt table.size],
      .ok (.print (table.lookup message lang ++ "\n"))⟩

/-- What is to be done, given what reading the input file gave. -/
def respond (request : Request) (content : Except FileFault ByteArray) :
    Logged Action :=
  (load request.input content).andThen request.plan

end Request

/-- What a run leads to: the text it prints, the files as it leaves them, its
events, and why it failed if it did. -/
structure Outcome where
  stdout : String
  tree : FileTree
  events : List Event
  failure : Option Failure

/-- Carries a request out on a file tree. -/
def Request.run (request : Request) (tree : FileTree) : Outcome :=
  let response := request.respond (tree.read request.input)
  match response.result with
  | .error failure => ⟨"", tree, response.events, some failure⟩
  | .ok (.print text) => ⟨text, tree, response.events, none⟩
  | .ok (.save path text records) =>
    match tree.write path text.toUTF8 with
    | .error fault =>
      ⟨"", tree, response.events, some (.uncreatable path fault)⟩
    | .ok after =>
      ⟨"", after, response.events ++ [.outputWritten path records], none⟩

end Phrasebook
