import GadgetModes.Mode.Description
import GadgetModes.Proofs.KeyFile.Printing

/-!
# Mode descriptions written out

Fields are written out as a mode description with one line for each value that is given
(`description`), and read back from it (`ofText_description`). The lines of a block may stand
in any order, since no key is written twice: what is found under a key is what the fields
say (`tells_description`).

A value that ends in a backslash is the exception. Nothing is escaped in a description, and
yet that backslash is not literal: it takes the next line with it
(`not_ofText_description_of_oneLine`), unless others pair up with it.
-/

namespace GadgetModes

open GadgetModes.Text

/-! ## Looking up what was written -/

namespace KeyFile

/-- The pairs of the keys that have a value. -/
def given (values : List (String × Option String)) : List (String × String) :=
  values.filterMap fun (key, value?) => value?.map (key, ·)

theorem fst_mem_of_given {values : List (String × Option String)} {pair : String × String}
    (h : pair ∈ given values) : pair.1 ∈ values.map (·.1) := by
  obtain ⟨⟨key, value?⟩, hmem, hpair⟩ := List.mem_filterMap.mp h
  obtain ⟨value, -, rfl⟩ := Option.map_eq_some_iff.mp hpair
  exact List.mem_map_of_mem hmem

/-- No key has two values. -/
theorem filter_given {values : List (String × Option String)} {key : String}
    {value? : Option String} (hkeys : (values.map (·.1)).Nodup)
    (h : (key, value?) ∈ values) :
    (given values).filter (·.1 = key) = (value?.map (key, ·)).toList := by
  induction values with
  | nil => cases h
  | cons first values ih =>
      obtain ⟨k, v?⟩ := first
      rw [List.map_cons, List.nodup_cons] at hkeys
      have hcons : given ((k, v?) :: values) = (v?.map (k, ·)).toList ++ given values := by
        cases v? <;> simp [given]
      rw [hcons, List.filter_append]
      rcases List.mem_cons.mp h with heq | hmem
      · obtain ⟨rfl, rfl⟩ := Prod.mk.inj heq
        have hnone : (given values).filter (·.1 = key) = [] := by
          refine List.filter_eq_nil_iff.mpr fun pair hpair hkey => hkeys.1 ?_
          have hfst := fst_mem_of_given hpair
          rwa [of_decide_eq_true hkey] at hfst
        rw [hnone, List.append_nil]
        cases value? <;> simp
      · have hne : k ≠ key := by
          rintro rfl
          exact hkeys.1 (List.mem_map.mpr ⟨_, hmem, rfl⟩)
        have hnone : (v?.map (k, ·)).toList.filter (·.1 = key) = [] := by
          cases v? <;> simp [hne]
        rw [hnone, List.nil_append, ih hkeys.2 hmem]

def blockItems (name : String) (pairs : List (String × String)) : List Item :=
  .header name :: pairs.map fun (key, value) => .entry key value

theorem entriesOf_append (pairs : List (String × String)) (items : List Item) :
    entriesOf ((pairs.map fun (key, value) => Item.entry key value) ++ items) =
      pairs ++ entriesOf items := by
  induction pairs with
  | nil => rfl
  | cons pair pairs ih => simp [entriesOf, ih]

theorem blockOf_append (name : String) (pairs : List (String × String)) (items : List Item) :
    blockOf name ((pairs.map fun (key, value) => Item.entry key value) ++ items) =
      blockOf name items := by
  induction pairs with
  | nil => rfl
  | cons pair pairs ih => simpa [blockOf] using ih

end KeyFile

/-! ## Descriptions -/

namespace Mode

open KeyFile

/-- The value that a flag is written as. -/
def written (flag : Bool) : Option String :=
  if flag then some "1" else none

/-- What fields say under the keys of a block. -/
def Fields.values (f : Fields) : Block → List (String × Option String)
  | .mode =>
    [("name", f.name), ("module", f.module), ("appsync", written f.appsync),
      ("mass_storage", written f.massStorage), ("network", written f.network),
      ("network_interface", f.networkInterface)]
  | .options =>
    [("sysfs_path", f.sysfsPath), ("sysfs_value", f.sysfsValue),
      ("sysfs_reset_value", f.sysfsResetValue), ("idProduct", f.idProduct),
      ("idVendorOverride", f.idVendorOverride), ("nat", written f.nat),
      ("dhcp_server", written f.dhcpServer), ("connman_tethering", f.tetheringTechnology)] ++
    (List.finRange extraSlots).flatMap fun (slot : Fin extraSlots) =>
      [(Description.slotKey "android_extra_sysfs_path" slot, (f.extraSysfs.get slot).path),
        (Description.slotKey "android_extra_sysfs_value" slot, (f.extraSysfs.get slot).value)]

/-- The lines that fields are written out in, as pairs of a key and a value. -/
def Fields.entries (f : Fields) (block : Block) : List (String × String) :=
  given (f.values block)

/-- A description with these blocks in this order, each with these lines. -/
def description (order : List Block) (lines : Block → List (String × String)) : String :=
  printed (order.flatMap fun block => blockItems block.name (lines block))

def Block.keys : Block → List String
  | .mode => ["name", "module", "appsync", "mass_storage", "network", "network_interface"]
  | .options =>
    ["sysfs_path", "sysfs_value", "sysfs_reset_value", "idProduct", "idVendorOverride", "nat",
      "dhcp_server", "connman_tethering",
      "android_extra_sysfs_path", "android_extra_sysfs_value",
      "android_extra_sysfs_path2", "android_extra_sysfs_value2",
      "android_extra_sysfs_path3", "android_extra_sysfs_value3",
      "android_extra_sysfs_path4", "android_extra_sysfs_value4"]

theorem Fields.map_fst_values (f : Fields) (block : Block) :
    (f.values block).map (·.1) = block.keys := by
  cases block <;> rfl

theorem Block.nodup_keys (block : Block) : block.keys.Nodup := by
  cases block <;> decide

theorem Block.literal_keys (block : Block) : ∀ key ∈ block.keys, LiteralKey key := by
  cases block <;> decide +kernel

/-! ## Reading fields back -/

/-- What is found under each key of a key file is what the fields say. -/
def Tells (file : KeyFile) (f : Fields) : Prop :=
  ∀ block, ∀ pair ∈ f.values block, file.value? block.name pair.1 = pair.2

section Tells

variable {file : KeyFile} {f : Fields} {block : Block} {key : String}

theorem Tells.text? (h : Tells file f) {value? : Option String}
    (hmem : (key, value?) ∈ f.values block)
    (hplain : ∀ value ∈ value?, trimmed value = value ∧ value ≠ "") :
    Description.text? file block key = value? := by
  rw [Description.text?, h block _ hmem]
  cases value? with
  | none => rfl
  | some value =>
      obtain ⟨htrim, hne⟩ := hplain value rfl
      simp [htrim, hne]

theorem Tells.flag (h : Tells file f) {flag : Bool}
    (hmem : (key, written flag) ∈ f.values block) :
    Description.flag file block key = flag := by
  -- A flag that is off has no line, and one that is on is not written as zero.
  have hset : ∀ flag, (written flag).any Description.isSet = flag := by decide
  rw [Description.flag, h block _ hmem, hset]

theorem mem_entries {value : String} (h : (key, some value) ∈ f.values block) :
    (key, value) ∈ f.entries block :=
  List.mem_filterMap.mpr ⟨_, h, rfl⟩

/-- A key file that tells fields is read as these. -/
theorem Tells.fields (h : Tells file f)
    (hplain : ∀ block, ∀ entry ∈ f.entries block, trimmed entry.2 = entry.2 ∧ entry.2 ≠ "") :
    Description.fields { tethering := true } file = f := by
  have htext : ∀ block, ∀ pair ∈ f.values block,
      Description.text? file block pair.1 = pair.2 := by
    intro block ⟨key, value?⟩ hmem
    refine h.text? hmem fun value hvalue => ?_
    rw [Option.mem_def] at hvalue
    subst hvalue
    exact hplain block (key, value) (mem_entries hmem)
  have hextra : Description.extraSysfs file = f.extraSysfs := by
    ext slot hslot : 1
    have hslots : ∀ pair, pair ∈
        [(Description.slotKey "android_extra_sysfs_path" slot, f.extraSysfs[slot].path),
          (Description.slotKey "android_extra_sysfs_value" slot, f.extraSysfs[slot].value)] →
        Description.text? file .options pair.1 = pair.2 := fun pair hpair =>
      htext .options pair <| List.mem_append_right _ <|
        List.mem_flatMap.mpr ⟨⟨slot, hslot⟩, List.mem_finRange _, hpair⟩
    simp only [List.forall_mem_cons] at hslots
    simp [Description.extraSysfs, hslots]
  have hmode := htext .mode
  have hoptions := htext .options
  simp only [Fields.values, List.forall_mem_cons, List.forall_mem_append] at hmode hoptions
  obtain ⟨hname, hmodule, -, -, -, hinterface, -⟩ := hmode
  obtain ⟨⟨hpath, hvalue, hreset, hproduct, hvendor, -, -, htethering, -⟩, -⟩ := hoptions
  have happsync : Description.flag file .mode "appsync" = f.appsync :=
    h.flag (by simp [Fields.values])
  have hstorage : Description.flag file .mode "mass_storage" = f.massStorage :=
    h.flag (by simp [Fields.values])
  have hnetwork : Description.flag file .mode "network" = f.network :=
    h.flag (by simp [Fields.values])
  have hnat : Description.flag file .options "nat" = f.nat :=
    h.flag (by simp [Fields.values])
  have hdhcp : Description.flag file .options "dhcp_server" = f.dhcpServer :=
    h.flag (by simp [Fields.values])
  simp only [Description.fields, if_true, hname, hmodule, happsync, hstorage, hnetwork,
    hinterface, hpath, hvalue, hreset, hextra, hproduct, hvendor, hnat, hdhcp, htethering]

end Tells

/-! ## Descriptions read back -/

section RoundTrip

variable {f : Fields} {order : List Block} {lines : Block → List (String × String)}

theorem entriesOf_blocks (order : List Block) :
    entriesOf (order.flatMap fun b => blockItems b.name (lines b)) = [] := by
  cases order <;> rfl

theorem blockOf_blocks {block : Block} (h : block ∈ order) :
    blockOf block.name (order.flatMap fun b => blockItems b.name (lines b)) = lines block := by
  induction order with
  | nil => cases h
  | cons first order ih =>
      rw [List.flatMap_cons, blockItems, List.cons_append, blockOf]
      by_cases heq : first = block
      · subst heq
        rw [if_pos rfl, entriesOf_append, entriesOf_blocks, List.append_nil]
      · have hname : first.name ≠ block.name := by
          revert heq
          cases first <;> cases block <;> decide
        have hmem : block ∈ order := by
          rcases List.mem_cons.mp h with hfirst | hmem
          · exact absurd hfirst.symm heq
          · exact hmem
        rw [if_neg hname, blockOf_append, ih hmem]

theorem tells_description (horder : ∀ block, block ∈ order)
    (hlines : ∀ block, (lines block).Perm (f.entries block)) :
    Tells ⟨order.flatMap fun b => blockItems b.name (lines b)⟩ f := by
  intro block ⟨key, found⟩ hmem
  have hkeys : ((f.values block).map (·.1)).Nodup := by
    rw [f.map_fst_values]
    exact block.nodup_keys
  -- At most one line has the key, so it is found wherever it stands.
  have hperm := (hlines block).filter (fun pair => decide (pair.1 = key))
  rw [Fields.entries, filter_given hkeys hmem] at hperm
  have hfilter : (lines block).filter (·.1 = key) = (found.map (key, ·)).toList := by
    cases found with
    | none => exact List.perm_nil.mp hperm
    | some value => exact List.perm_singleton.mp hperm
  rw [value?, KeyFile.block, blockOf_blocks (horder block), hfilter]
  cases found <;> rfl

theorem literal_description (hlines : ∀ block, (lines block).Perm (f.entries block))
    (hline : ∀ block, ∀ entry ∈ f.entries block, OneLine entry.2)
    (heven : ∀ block, ∀ entry ∈ f.entries block, Even (backslashes entry.2.toList)) :
    ∀ item ∈ order.flatMap fun b => blockItems b.name (lines b), item.Literal := by
  intro item hitem
  obtain ⟨block, -, hitem⟩ := List.mem_flatMap.mp hitem
  rcases List.mem_cons.mp hitem with rfl | hitem
  · have hline : OneLine block.name := by cases block <;> decide
    have hchars : block.name.toList.all (fun c => c != ']' && c != '\\') = true := by
      cases block <;> decide
    exact .header hline (by simpa using hchars)
  · obtain ⟨⟨key, value⟩, hmem, rfl⟩ := List.mem_map.mp hitem
    have hentry := (hlines block).mem_iff.mp hmem
    have hkey : key ∈ block.keys := f.map_fst_values block ▸ fst_mem_of_given hentry
    exact .entry (block.literal_keys key hkey) (hline block _ hentry) (heven block _ hentry)

end RoundTrip

/-- **A description gives back the fields it was written from.** -/
theorem ofText_description {f : Fields} (hsound : f.violation? = none)
    (hgiven : ∀ block, ∀ entry ∈ f.entries block, entry.2 ≠ "" ∧ OneLine entry.2)
    (heven : ∀ block, ∀ entry ∈ f.entries block, Even (backslashes entry.2.toList))
    {order : List Block} (horder : order.Perm [.mode, .options])
    {lines : Block → List (String × String)}
    (hlines : ∀ block, (lines block).Perm (f.entries block)) (source : String) :
    Record.ofText { tethering := true } source (description order lines) =
      .ok { source, fields := f, sound := hsound } := by
  have hblocks : ∀ block, block ∈ order := fun block =>
    horder.mem_iff.mpr (by cases block <;> decide)
  have hread : KeyFile.read (description order lines) =
      .ok ⟨order.flatMap fun b => blockItems b.name (lines b)⟩ :=
    read_printed <| literal_description hlines
      (fun block entry hentry => (hgiven block entry hentry).2) heven
  have hfields := (tells_description hblocks hlines).fields fun block entry hentry =>
    ⟨(hgiven block entry hentry).2.trimmed, (hgiven block entry hentry).1⟩
  rw [Record.ofText, Description.ofText, hread]
  simp only [hfields, Except.bind]
  rw [Record.ofFields]
  split
  · next h => simp [hsound] at h
  · rfl

/-- Fields with values that look like headers, comments and escapes. -/
def markedFields : Fields where
  name := some "\"a\\n;"
  module := some "[b]=:#\\\\"
  network := true
  networkInterface := some "# c"
  idProduct := some "'"
  tetheringTechnology := some "[mode]"

theorem ofText_description_markedFields :
    markedFields.violation? = none
      ∧ (∀ block, ∀ entry ∈ markedFields.entries block, entry.2 ≠ "" ∧ OneLine entry.2)
      ∧ (∀ block, ∀ entry ∈ markedFields.entries block, Even (backslashes entry.2.toList))
      ∧ [Block.options, .mode].Perm [.mode, .options]
      ∧ (∀ block, (markedFields.entries block).reverse.Perm (markedFields.entries block))
      ∧ description [.options, .mode] (fun block => (markedFields.entries block).reverse) =
        "[options]\nconnman_tethering=[mode]\nidProduct='\n" ++
          "[mode]\nnetwork_interface=# c\nnetwork=1\nmodule=[b]=:#\\\\\nname=\"a\\n;\n"
      ∧ ∃ r, Record.ofText { tethering := true } "a.ini"
          (description [.options, .mode] fun block => (markedFields.entries block).reverse) =
          .ok r ∧ r.source = "a.ini" ∧ r.fields = markedFields ∧ r.cache = {} := by
  have hsound : markedFields.violation? = none := by decide
  have hgiven : ∀ block, ∀ entry ∈ markedFields.entries block,
      entry.2 ≠ "" ∧ OneLine entry.2 := by
    intro block
    cases block <;> decide +kernel
  have heven : ∀ block, ∀ entry ∈ markedFields.entries block,
      Even (backslashes entry.2.toList) := by
    intro block
    cases block <;> decide +kernel
  have horder : [Block.options, .mode].Perm [.mode, .options] := by decide
  have hlines : ∀ block,
      (markedFields.entries block).reverse.Perm (markedFields.entries block) :=
    fun block => List.reverse_perm _
  exact ⟨hsound, hgiven, heven, horder, hlines, by decide +kernel, _,
    ofText_description hsound hgiven heven horder hlines "a.ini", rfl, rfl, rfl⟩

/-- Fields with a name that ends in a backslash. -/
def danglingFields : Fields where
  name := some "a\\"
  module := some "b"

/-- The backslash takes the next line with it, and the key there is lost. -/
theorem read_danglingFields :
    KeyFile.read (description [.mode, .options] danglingFields.entries) =
      .ok ⟨[.header "mode", .entry "name" "amodule=b", .header "options"]⟩ := by
  decide +kernel

/-- Values on one line are not enough: a backslash at the end of one is not literal. -/
theorem not_ofText_description_of_oneLine :
    ¬∀ (f : Fields) (hsound : f.violation? = none),
      (∀ block, ∀ entry ∈ f.entries block, entry.2 ≠ "" ∧ OneLine entry.2) →
        ∀ order : List Block, order.Perm [.mode, .options] →
          ∀ lines : Block → List (String × String),
            (∀ block, (lines block).Perm (f.entries block)) → ∀ source,
              Record.ofText { tethering := true } source (description order lines) =
                .ok { source, fields := f, sound := hsound } := by
  intro h
  have hgiven : ∀ block, ∀ entry ∈ danglingFields.entries block,
      entry.2 ≠ "" ∧ OneLine entry.2 := by
    intro block
    cases block <;> decide +kernel
  have hrecord := h danglingFields (by decide) hgiven [.mode, .options] (.refl _)
    danglingFields.entries (fun _ => .refl _) "a.ini"
  have hrejected : Record.ofText { tethering := true } "a.ini"
      (description [.mode, .options] danglingFields.entries) =
      .error (.missingField "mode" "module") := by
    rw [Record.ofText, Description.ofText, read_danglingFields]
    decide
  rw [hrejected] at hrecord
  cases hrecord

end Mode

end GadgetModes
