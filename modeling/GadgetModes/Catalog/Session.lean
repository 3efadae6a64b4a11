import GadgetModes.Catalog.Store
import GadgetModes.FileSystem.Access

/-!
# Sessions with a store

A session is a store in use: files change, catalogs are reloaded, released and held on
to, modes are looked up, and single modes are copied. A mode in a catalog and a copy of
it are different instances: each has a network cache of its own, which every handle on
the same instance shares.

`Catalog.answer` is one request to a catalog and the copies made so far, and
`StoreSession.step` one request to a session.
-/

namespace GadgetModes

open GadgetModes.Log GadgetModes.Mode

namespace Catalog

/-! ## Changes of a cache -/

inductive CacheField where
  | ip
  | interface
  | gateway
  | natInterface
  | netmask
deriving DecidableEq

def CacheField.set : CacheField → Option String → NetworkCache → NetworkCache
  | ip, v, c => { c with ip := v }
  | interface, v, c => { c with interface := v }
  | gateway, v, c => { c with gateway := v }
  | natInterface, v, c => { c with natInterface := v }
  | netmask, v, c => { c with netmask := v }

/-- What can be done to a cache. -/
inductive CacheChange where
  | keep
  | clear
  | set (fields : List (CacheField × Option String))
deriving DecidableEq

def CacheChange.apply : CacheChange → Record → Record
  | keep, r => r
  | clear, r => r.clearCache
  | set fields, r => r.updateCache fun c => fields.foldl (fun c (field, v) => field.set v c) c

/-! ## Requests to a catalog -/

/-- How an instance of a mode is reached. -/
inductive Handle where
  | named (name : String)
  | position (i : Nat)
  | copy (i : Nat)
deriving DecidableEq

/-- What a catalog and its copies can be asked. -/
inductive Request where
  | summary
  | names
  | all
  | contains (name : String)
  | lookup (name : String)
  | duplicate (name : String)
  | copy (i : Nat)
  | cloneCopy (i : Nat)
  | cache (handle : Handle) (change : CacheChange)
deriving DecidableEq

inductive Answer where
  | done
  | nothing
  | summary (catalog : Catalog)
  | names (names : List String)
  | records (records : List Record)
  | truth (b : Bool)
  | record (record : Record)
  | cache (cache : NetworkCache)
  | held (index : Nat)
deriving DecidableEq

/-- An answer with the catalog and the copies afterwards. -/
structure Answered where
  answer : Answer
  catalog : Catalog
  copies : List Record
deriving DecidableEq

def Answer.ofRecord? : Option Record → Answer
  | some r => .record r
  | none => .nothing

/-- The answer that the cache of a record is, if there is one. -/
def Answer.ofCache? : Option Record → Answer
  | some r => .cache r.cache
  | none => .nothing

/-- Changes one instance: in the catalog, or among the copies. -/
def change (c : Catalog) (copies : List Record) (f : Record → Record) :
    Handle → Catalog × List Record
  | .named name => match c.position? name with
    | some i => (c.modify i f, copies)
    | none => (c, copies)
  | .position i => (c.modify i f, copies)
  | .copy i => (c, copies.modify i f)

def instance? (c : Catalog) (copies : List Record) : Handle → Option Record
  | .named name => c.lookup name
  | .position i => c.modes[i]?
  | .copy i => copies[i]?

def answer (c : Catalog) (copies : List Record) : Request → Answered
  | .summary => ⟨.summary c, c, copies⟩
  | .names => ⟨.names c.names, c, copies⟩
  | .all => ⟨.records c.modes.toList, c, copies⟩
  | .contains name => ⟨.truth (c.contains name), c, copies⟩
  | .lookup name => ⟨.ofRecord? (c.lookup name), c, copies⟩
  | .duplicate name =>
    let copy? := c.duplicate name
    ⟨.ofRecord? copy?, c, copies ++ copy?.toList⟩
  | .copy i => ⟨.ofRecord? copies[i]?, c, copies⟩
  | .cloneCopy i =>
    let copy? := copies[i]?.map Record.copy
    ⟨.ofRecord? copy?, c, copies ++ copy?.toList⟩
  | .cache handle f =>
    let (c, copies) := c.change copies f.apply handle
    ⟨.ofCache? (c.instance? copies handle), c, copies⟩

end Catalog

/-! ## Requests to a session -/

/-- A store in use. -/
structure StoreSession where
  store : Store
  files : FileSystem
  /-- The generations held on to, in the order in which they were. -/
  held : List Nat := []
  copies : List Record := []
deriving DecidableEq

/-- What a session can be asked. -/
inductive StoreRequest where
  | write (path : String) (node : Node)
  | remove (path : String)
  | reload (diagnostic : Bool)
  | release
  | hold
  | scan (diagnostic : Bool)
  | scanDir (path : String)
  | active (request : Catalog.Request)
  | onHeld (index : Nat) (request : Catalog.Request)
deriving DecidableEq

namespace StoreSession

/-- Answers a request to the catalog of a generation. -/
def ask (s : StoreSession) (generation : Nat) (request : Catalog.Request) :
    Catalog.Answer × StoreSession :=
  match s.store.catalog? generation with
  | none => (.nothing, s)
  | some catalog =>
    let answered := catalog.answer s.copies request
    (answered.answer,
      { s with
        store := s.store.modify generation fun _ => answered.catalog
        copies := answered.copies })

def step (s : StoreSession) : StoreRequest → Logged (Catalog.Answer × StoreSession)
  | .write path node => return (.done, { s with files := s.files.write path node })
  | .remove path => return (.done, { s with files := s.files.remove path })
  | .reload diagnostic => do
    let store ← s.store.reload s.files diagnostic
    return (.summary store.active, { s with store })
  | .release =>
    let store := s.store.release
    return (.summary store.active, { s with store })
  | .hold => return (.held s.held.length, { s with held := s.held ++ [s.store.generation] })
  | .scan diagnostic => do
    let records ← s.store.scanner.scan s.files diagnostic
    return (.records records, s)
  | .scanDir path => do
    let records ← s.store.scanner.scanDir s.files path
    return (.records records, s)
  | .active request => return s.ask s.store.generation request
  | .onHeld index request =>
    match s.held[index]? with
    | some generation => return s.ask generation request
    | none => return (.nothing, s)

end StoreSession

end GadgetModes
