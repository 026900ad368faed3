import AerialBridge.Assets.Yaml

/-!
# The loopback configuration

`make_loopback_config.py` turns a controller profile into a standalone one: it sets some keys, and
of the NICs and of the cells it keeps the first.  What it makes of its own output is that output
again, and what it does not name is as it was.

A profile is a tree with text for keys: the script changes its mappings in place, so an alias that
shares one of them would show the change in two places.
-/

namespace AerialBridge

abbrev Profile := Yaml (List Char)

/-- The entries of a mapping. -/
abbrev Fields := List (List Char × Profile)

inductive LoopbackError
  | keyError
  | indexError
  | typeError
  | valueError
  | keyNotText
  deriving DecidableEq, Repr

/-- `value[0]`.  A mapping is asked for the key 0, which is not text. -/
def firstItem : Profile → Except LoopbackError Profile
  | .seq (item :: _) => pure item
  | .seq [] => .error .indexError
  | .str (c :: _) => pure (.str [c])
  | .str [] => .error .indexError
  | .map _ => .error .keyError
  | .null | .bool _ | .int _ | .other _ => .error .typeError

/-- An element of a sequence that `dict` takes for a key and its value. -/
def pairOf : Profile → Except LoopbackError (List Char × Profile)
  | .seq [.str key, value] => pure (key, value)
  | .seq [.seq _, _] | .seq [.map _, _] => .error .typeError
  -- here the script goes on, with a key that is not text
  | .seq [_, _] => .error .keyNotText
  | .str [key, value] => pure ([key], .str [value])
  | .map [(key, _), (key', _)] => pure (key, .str key')
  | .seq _ | .str _ | .map _ => .error .valueError
  | .null | .bool _ | .int _ | .other _ => .error .typeError

/-- `dict(value)`, for keys that are text. -/
def toDict : Profile → Except LoopbackError Fields
  | .map entries => pure entries
  | .seq items => do
      let pairs ← items.mapM pairOf
      pure (Dict.assign pairs [])
  | .str [] => pure []
  | .str (_ :: _) => .error .valueError
  | .null | .bool _ | .int _ | .other _ => .error .typeError

def topSettings : Fields :=
  [("l2adapter_filename".toList, .str "l2_adapter_config_loopback.yaml".toList),
    ("standalone_filename".toList, .str "launch_pattern.yaml".toList),
    ("aerial_metrics_backend_address".toList, .str "127.0.0.1:8081".toList),
    ("low_priority_core".toList, .int 4)]

def driverSettings : Fields :=
  [("standalone".toList, .int 1),
    ("validation".toList, .int 0),
    ("fh_stats_dump_cpu_core".toList, .int (-1)),
    ("workers_ul".toList, .seq [.int 2, .int 3]),
    ("workers_dl".toList, .seq [.int 4, .int 5, .int 6]),
    ("gpu_init_comms_dl".toList, .int 0),
    ("enable_h2d_copy_thread".toList, .int 0)]

def cellSettings : Fields :=
  [("name".toList, .str "Loopback RU 0".toList),
    ("cell_id".toList, .int 1),
    ("src_mac_addr".toList, .str "00:00:00:00:00:00".toList),
    ("dst_mac_addr".toList, .str "00:00:00:00:00:00".toList),
    ("vlan".toList, .int 0),
    ("pcp".toList, .int 0)]

def driverKey : List Char := "cuphydriver_config".toList

def nicsKey : List Char := "nics".toList

def cellsKey : List Char := "cells".toList

/-- A list under the key is cut to its first entry, and that is given the settings. -/
def collapse (key : List Char) (settings : Fields) (cfg : Fields) : Except LoopbackError Fields :=
  match Dict.valueAt cfg key with
  | some value =>
      if value.truthy then do
        let item ← firstItem value
        let fields ← toDict item
        pure (Dict.upsert key (fun _ ↦ .seq [.map (Dict.assign settings fields)]) cfg)
      else pure cfg
  | none => pure cfg

def loopbackDriver (cfg : Fields) : Except LoopbackError Fields := do
  let cfg ← collapse nicsKey [] (Dict.assign driverSettings cfg)
  collapse cellsKey cellSettings cfg

/-- The value that is dumped for the one that was loaded. -/
def makeLoopback : Profile → Except LoopbackError Profile
  | .map data =>
      match Dict.valueAt data driverKey with
      | some (.map cfg) => do
          let cfg ← loopbackDriver cfg
          -- `cfg` is the mapping that stands in `data`
          pure (.map (Dict.upsert driverKey (fun _ ↦ .map cfg) (Dict.assign topSettings data)))
      | some _ => .error .typeError
      | none => .error .keyError
  | _ => .error .typeError

/-! ## Collapsing a list -/

section

variable {key : List Char} {settings cfg cfg' : Fields}

/-- Either there is nothing to collapse, or there is a first entry. -/
theorem collapse_cases (h : collapse key settings cfg = .ok cfg') :
    (cfg' = cfg ∧ ∀ value, Dict.valueAt cfg key = some value → value.truthy = false) ∨
      ∃ value item fields, Dict.valueAt cfg key = some value ∧ value.truthy = true ∧
        firstItem value = .ok item ∧ toDict item = .ok fields ∧
        cfg' = Dict.upsert key (fun _ ↦ .seq [.map (Dict.assign settings fields)]) cfg := by
  unfold collapse at h
  cases hlookup : Dict.valueAt cfg key with
  | none =>
      simp only [hlookup] at h
      cases h
      exact .inl ⟨rfl, nofun⟩
  | some value =>
      simp only [hlookup] at h
      by_cases htruthy : value.truthy = true
      · rw [if_pos htruthy] at h
        cases hitem : firstItem value with
        | error e =>
            rw [hitem] at h
            cases h
        | ok item =>
            rw [hitem] at h
            cases hfields : toDict item with
            | error e =>
                change toDict item >>= _ = _ at h
                rw [hfields] at h
                cases h
            | ok fields =>
                change toDict item >>= _ = _ at h
                rw [hfields] at h
                cases h
                exact .inr ⟨value, item, fields, rfl, htruthy, hitem, hfields, rfl⟩
      · -- an empty list, like a missing one, is left as it is
        rw [if_neg htruthy] at h
        cases h
        refine .inl ⟨rfl, fun value' hvalue ↦ ?_⟩
        rw [← Option.some.inj hvalue]
        exact Bool.not_eq_true _ ▸ htruthy

theorem collapse_lookup (h : collapse key settings cfg = .ok cfg') {k : List Char} (hk : k ≠ key) :
    Dict.valueAt cfg' k = Dict.valueAt cfg k := by
  rcases collapse_cases h with ⟨rfl, _⟩ | ⟨_, _, _, _, _, _, _, rfl⟩
  · rfl
  · rw [Dict.valueAt_upsert, if_neg hk]

theorem keys_collapse (h : collapse key settings cfg = .ok cfg') :
    cfg'.map Prod.fst = cfg.map Prod.fst := by
  rcases collapse_cases h with ⟨rfl, _⟩ | ⟨value, _, _, hlookup, _, _, _, rfl⟩
  · rfl
  · rw [Dict.keys_upsert, if_pos (Dict.mem_keys_of_valueAt hlookup)]

/-- Collapsing once more changes nothing, whatever has been changed elsewhere. -/
theorem collapse_fixed (hnodup : (settings.map Prod.fst).Nodup)
    (h : collapse key settings cfg = .ok cfg') {after : Fields}
    (hafter : Dict.valueAt after key = Dict.valueAt cfg' key) :
    collapse key settings after = .ok after := by
  rcases collapse_cases h with ⟨rfl, hfalsy⟩ | ⟨value, item, fields, _, _, _, _, rfl⟩
  · unfold collapse
    rw [hafter]
    cases hlookup : Dict.valueAt cfg' key with
    | none => rfl
    | some value =>
        show (if value.truthy = true then _ else _) = _
        rw [hfalsy value hlookup]
        rfl
  · rw [Dict.valueAt_upsert, if_pos rfl] at hafter
    have hsettings : Dict.assign settings (Dict.assign settings fields) =
        Dict.assign settings fields :=
      Dict.assign_of_valueAt fun e he ↦ Dict.valueAt_assign_of_mem hnodup he fields
    unfold collapse
    rw [hafter]
    show Except.ok (Dict.upsert key
      (fun _ ↦ .seq [.map (Dict.assign settings (Dict.assign settings fields))]) after) = _
    rw [hsettings, Dict.upsert_of_valueAt hafter]

end

/-! ## The driver's section -/

/-- Under the key stands what stood there when that was empty or missing, else its first entry with
the settings. -/
def Collapsed (key : List Char) (settings cfg cfg' : Fields) : Prop :=
  (Dict.valueAt cfg' key = Dict.valueAt cfg key ∧
      ∀ value, Dict.valueAt cfg key = some value → value.truthy = false) ∨
    ∃ value item fields, Dict.valueAt cfg key = some value ∧ value.truthy = true ∧
      firstItem value = .ok item ∧ toDict item = .ok fields ∧
      Dict.valueAt cfg' key = some (.seq [.map (Dict.assign settings fields)])

theorem collapse_collapsed {key : List Char} {settings cfg cfg' : Fields}
    (h : collapse key settings cfg = .ok cfg') : Collapsed key settings cfg cfg' := by
  rcases collapse_cases h with ⟨rfl, hfalsy⟩ |
    ⟨value, item, fields, hlookup, htruthy, hitem, hdict, rfl⟩
  · exact .inl ⟨rfl, hfalsy⟩
  · refine .inr ⟨value, item, fields, hlookup, htruthy, hitem, hdict, ?_⟩
    rw [Dict.valueAt_upsert, if_pos rfl]

theorem Collapsed.congr {key : List Char} {settings cfg cfg' after after' : Fields}
    (h : Collapsed key settings cfg cfg') (hcfg : Dict.valueAt after key = Dict.valueAt cfg key)
    (hcfg' : Dict.valueAt after' key = Dict.valueAt cfg' key) :
    Collapsed key settings after after' := by
  unfold Collapsed
  rw [hcfg, hcfg']
  exact h

section

variable {cfg cfg' : Fields}

/-- The two lists are collapsed one after the other, and neither touches the other. -/
theorem loopbackDriver_steps (h : loopbackDriver cfg = .ok cfg') :
    ∃ mid, collapse nicsKey [] (Dict.assign driverSettings cfg) = .ok mid ∧
      collapse cellsKey cellSettings mid = .ok cfg' := by
  unfold loopbackDriver at h
  cases hmid : collapse nicsKey [] (Dict.assign driverSettings cfg) with
  | error e =>
      rw [hmid] at h
      cases h
  | ok mid =>
      rw [hmid] at h
      exact ⟨mid, rfl, h⟩

theorem nicsKey_ne_cellsKey : nicsKey ≠ cellsKey := by decide

theorem loopbackDriver_lookup (h : loopbackDriver cfg = .ok cfg') {key : List Char}
    (hnics : key ≠ nicsKey) (hcells : key ≠ cellsKey) :
    Dict.valueAt cfg' key = Dict.valueAt (Dict.assign driverSettings cfg) key := by
  obtain ⟨mid, hmid, hlast⟩ := loopbackDriver_steps h
  rw [collapse_lookup hlast hcells, collapse_lookup hmid hnics]

theorem loopbackDriver_settings (h : loopbackDriver cfg = .ok cfg') {setting : List Char × Profile}
    (hsetting : setting ∈ driverSettings) : Dict.valueAt cfg' setting.1 = some setting.2 := by
  -- none of the settings is one of the two lists
  have hnics : ∀ key ∈ driverSettings.map Prod.fst, key ≠ nicsKey := by decide
  have hcells : ∀ key ∈ driverSettings.map Prod.fst, key ≠ cellsKey := by decide
  have hkey : setting.1 ∈ driverSettings.map Prod.fst := List.mem_map_of_mem hsetting
  rw [loopbackDriver_lookup h (hnics _ hkey) (hcells _ hkey)]
  exact Dict.valueAt_assign_of_mem (by decide) hsetting cfg

theorem loopbackDriver_nics (h : loopbackDriver cfg = .ok cfg') : Collapsed nicsKey [] cfg cfg' := by
  obtain ⟨mid, hmid, hlast⟩ := loopbackDriver_steps h
  refine (collapse_collapsed hmid).congr ?_ (collapse_lookup hlast nicsKey_ne_cellsKey)
  rw [Dict.valueAt_assign_of_not_mem (by decide)]

theorem loopbackDriver_cells (h : loopbackDriver cfg = .ok cfg') :
    Collapsed cellsKey cellSettings cfg cfg' := by
  obtain ⟨mid, hmid, hlast⟩ := loopbackDriver_steps h
  refine (collapse_collapsed hlast).congr ?_ rfl
  rw [collapse_lookup hmid nicsKey_ne_cellsKey.symm, Dict.valueAt_assign_of_not_mem (by decide)]

theorem keys_loopbackDriver (h : loopbackDriver cfg = .ok cfg') :
    cfg.map Prod.fst <+: cfg'.map Prod.fst := by
  obtain ⟨mid, hmid, hlast⟩ := loopbackDriver_steps h
  rw [keys_collapse hlast, keys_collapse hmid]
  exact Dict.keys_assign driverSettings cfg

/-- A section that has been generated is generated from itself. -/
theorem loopbackDriver_fixed (h : loopbackDriver cfg = .ok cfg') :
    loopbackDriver cfg' = .ok cfg' := by
  obtain ⟨mid, hmid, hlast⟩ := loopbackDriver_steps h
  have hsettings : Dict.assign driverSettings cfg' = cfg' :=
    Dict.assign_of_valueAt fun setting hsetting ↦ loopbackDriver_settings h hsetting
  have hnics : collapse nicsKey [] cfg' = .ok cfg' :=
    collapse_fixed (by decide) hmid (collapse_lookup hlast nicsKey_ne_cellsKey)
  have hcells : collapse cellsKey cellSettings cfg' = .ok cfg' :=
    collapse_fixed (by decide) hlast rfl
  unfold loopbackDriver
  rw [hsettings, hnics]
  exact hcells

end

/-! ## The configuration -/

/-- What is generated, `data'` with its section `cfg'`, from `data` with its section `cfg`. -/
structure LoopbackOf (data cfg data' cfg' : Fields) : Prop where
  source : Dict.valueAt data driverKey = some (.map cfg)
  driver : Dict.valueAt data' driverKey = some (.map cfg')
  topSet : ∀ setting ∈ topSettings, Dict.valueAt data' setting.1 = some setting.2
  driverSet : ∀ setting ∈ driverSettings, Dict.valueAt cfg' setting.1 = some setting.2
  nics : Collapsed nicsKey [] cfg cfg'
  cells : Collapsed cellsKey cellSettings cfg cfg'
  topKept : ∀ key, key ∉ topSettings.map Prod.fst → key ≠ driverKey →
    Dict.valueAt data' key = Dict.valueAt data key
  driverKept : ∀ key, key ∉ driverSettings.map Prod.fst → key ≠ nicsKey → key ≠ cellsKey →
    Dict.valueAt cfg' key = Dict.valueAt cfg key
  topOrder : data.map Prod.fst <+: data'.map Prod.fst
  driverOrder : cfg.map Prod.fst <+: cfg'.map Prod.fst

theorem makeLoopback_cases {source out : Profile} (h : makeLoopback source = .ok out) :
    ∃ data cfg cfg', source = .map data ∧ Dict.valueAt data driverKey = some (.map cfg) ∧
      loopbackDriver cfg = .ok cfg' ∧
      out = .map (Dict.upsert driverKey (fun _ ↦ .map cfg') (Dict.assign topSettings data)) := by
  cases source with
  | null | bool | int | str | other | seq => cases h
  | map data =>
      unfold makeLoopback at h
      cases hdriver : Dict.valueAt data driverKey with
      | none =>
          simp only [hdriver] at h
          cases h
      | some value =>
          simp only [hdriver] at h
          cases value with
          | null | bool | int | str | other | seq => cases h
          | map cfg =>
              cases hcfg : loopbackDriver cfg with
              | error e =>
                  simp only [hcfg] at h
                  cases h
              | ok cfg' =>
                  simp only [hcfg] at h
                  cases h
                  exact ⟨data, cfg, cfg', rfl, hdriver, hcfg, rfl⟩

/-- The generated configuration has all the settings, one NIC and one cell at most, and everything
else where and as it was; and generating it again, from itself, changes nothing. -/
theorem makeLoopback_spec {source out : Profile} (h : makeLoopback source = .ok out) :
    makeLoopback out = .ok out ∧ ∃ data cfg data' cfg', source = .map data ∧ out = .map data' ∧
      LoopbackOf data cfg data' cfg' := by
  obtain ⟨data, cfg, cfg', rfl, hsource, hcfg, rfl⟩ := makeLoopback_cases h
  have hnot : driverKey ∉ topSettings.map Prod.fst := by decide
  have hdriver : Dict.valueAt (Dict.upsert driverKey (fun _ ↦ .map cfg')
      (Dict.assign topSettings data)) driverKey = some (.map cfg') := by
    rw [Dict.valueAt_upsert, if_pos rfl]
  have htop : ∀ setting ∈ topSettings, Dict.valueAt (Dict.upsert driverKey (fun _ ↦ .map cfg')
      (Dict.assign topSettings data)) setting.1 = some setting.2 := by
    intro setting hsetting
    have hne : setting.1 ≠ driverKey := fun heq ↦ hnot (heq ▸ List.mem_map_of_mem hsetting)
    rw [Dict.valueAt_upsert, if_neg hne]
    exact Dict.valueAt_assign_of_mem (by decide) hsetting data
  constructor
  · show (match Dict.valueAt (Dict.upsert driverKey (fun _ ↦ .map cfg')
      (Dict.assign topSettings data)) driverKey with | some (.map cfg) => _ | some _ => _ | none => _) = _
    rw [hdriver]
    show loopbackDriver cfg' >>= _ = _
    rw [loopbackDriver_fixed hcfg]
    show Except.ok (Yaml.map (Dict.upsert driverKey _ (Dict.assign topSettings _))) = _
    rw [Dict.assign_of_valueAt htop, Dict.upsert_of_valueAt hdriver]
  · refine ⟨data, cfg, _, cfg', rfl, rfl, ?_⟩
    exact {
      source := hsource
      driver := hdriver
      topSet := htop
      driverSet := fun _ ↦ loopbackDriver_settings hcfg
      nics := loopbackDriver_nics hcfg
      cells := loopbackDriver_cells hcfg
      topKept := fun key hkey hne ↦ by
        rw [Dict.valueAt_upsert, if_neg hne, Dict.valueAt_assign_of_not_mem hkey]
      driverKept := fun key hkey hnics hcells ↦ by
        rw [loopbackDriver_lookup hcfg hnics hcells, Dict.valueAt_assign_of_not_mem hkey]
      topOrder := by
        -- the section is there already
        have hmem : driverKey ∈ (Dict.assign topSettings data).map Prod.fst :=
          (Dict.keys_assign topSettings data).subset (Dict.mem_keys_of_valueAt hsource)
        rw [Dict.keys_upsert, if_pos hmem]
        exact Dict.keys_assign topSettings data
      driverOrder := keys_loopbackDriver hcfg }

/-- A profile with two cells. -/
def twoCells : Fields :=
  [("low_priority_core".toList, .int 19),
    (driverKey, .map [("standalone".toList, .int 0),
      (nicsKey, .seq [.map [("nic".toList, .str "0000:b5:00.0".toList), ("mtu".toList, .int 1514)]]),
      ("gpu_id".toList, .int 0),
      (cellsKey, .seq [.map [("name".toList, .str "O-RU 0".toList), ("vlan".toList, .int 2),
        ("nic".toList, .str "0000:b5:00.0".toList)], .map [("name".toList, .str "O-RU 1".toList)]])])]

/-- The NIC of the first cell is kept. -/
def twoCellsLoopback : Fields :=
  [("low_priority_core".toList, .int 4),
    (driverKey, .map ([("standalone".toList, .int 1),
      (nicsKey, .seq [.map [("nic".toList, .str "0000:b5:00.0".toList), ("mtu".toList, .int 1514)]]),
      ("gpu_id".toList, .int 0),
      (cellsKey, .seq [.map ([("name".toList, .str "Loopback RU 0".toList), ("vlan".toList, .int 0),
        ("nic".toList, .str "0000:b5:00.0".toList)] ++
        cellSettings.filter fun setting ↦ setting.1 ≠ "name".toList ∧ setting.1 ≠ "vlan".toList)])] ++
      driverSettings.tail))] ++ topSettings.take 3

theorem makeLoopback_spec_twoCells :
    makeLoopback (.map twoCellsLoopback) = .ok (.map twoCellsLoopback) ∧
      ∃ data cfg data' cfg', Yaml.map twoCells = .map data ∧
        Yaml.map twoCellsLoopback = .map data' ∧ LoopbackOf data cfg data' cfg' :=
  makeLoopback_spec (show makeLoopback (.map twoCells) = .ok (.map twoCellsLoopback) from rfl)

end AerialBridge
