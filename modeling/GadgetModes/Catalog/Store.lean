import GadgetModes.Catalog.Scan

/-!
# Stores

A store has one active catalog. Reloading and releasing put a new catalog in its place;
the old one is kept for whoever still reads it. Catalogs are told apart by their
generation, the number of catalogs that were active before.
-/

namespace GadgetModes

open GadgetModes.Log GadgetModes.Mode

/-- A scanner and the catalogs it made: the active one, and those before it. -/
structure Store where
  scanner : Scanner
  retired : List Catalog := []
  active : Catalog := {}
deriving DecidableEq

namespace Store

/-- The generation of the active catalog. -/
def generation (s : Store) : Nat :=
  s.retired.length

def catalog? (s : Store) (generation : Nat) : Option Catalog :=
  (s.retired ++ [s.active])[generation]?

/-- Changes the catalog of a generation in place. -/
def modify (s : Store) (generation : Nat) (f : Catalog → Catalog) : Store :=
  if generation = s.generation then { s with active := f s.active }
  else { s with retired := s.retired.modify generation f }

/-- Puts a new catalog in the place of the active one. -/
def replace (s : Store) (catalog : Catalog) : Store :=
  { s with retired := s.retired ++ [s.active], active := catalog }

/-- Builds the catalog anew and makes it the active one. -/
def reload (s : Store) (fs : FileSystem) (diagnostic : Bool) : Logged Store := do
  let catalog ← Catalog.build s.scanner fs diagnostic
  Logged.report (.catalogReplaced s.active.size catalog.size)
  return s.replace catalog

/-- Makes an empty catalog the active one. -/
def release (s : Store) : Store :=
  s.replace {}

/-- A store whose active catalog was loaded. -/
def load (scanner : Scanner) (fs : FileSystem) (diagnostic : Bool) : Logged Store :=
  reload { scanner } fs diagnostic

end Store

end GadgetModes
