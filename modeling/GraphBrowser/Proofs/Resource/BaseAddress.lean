import GraphBrowser.Config
import GraphBrowser.Proofs.Resource.Separators

/-!
# Addresses below a base

Settings are accepted if their base is an address of the web and they have an id to begin with. The
addresses of nodes are built from the base without its separators at the end, so that they need not be
addresses of the web themselves.

## Main definitions

* `Config.schemes` — what an address of the web begins with, up to the first separator
* `Config.IsBare` — the settings whose base is a scheme and separators

## Main statements

* `Config.check_eq_ok_iff` — which settings are accepted
* `Config.addresses_of_check` — **the addresses of nodes are addresses of the web exactly if the base is
  not bare**
* `Config.bare_base_accepted` — a bare base is accepted

## Design notes

**The base is checked before its separators are dropped.**  A base such as `http://` passes the check
with separators that no address of a node has.
-/

namespace GraphBrowser

namespace Config

open Text Address

/-- The schemes of the web. -/
def schemes : List (List Char) := ["http:".toList, "https:".toList]

/-- An address of the web is a scheme, two separators and anything else. -/
theorem isWebAddress_iff {cs : List Char} :
    isWebAddress cs = true ↔ ∃ scheme ∈ schemes, scheme ++ ['/', '/'] <+: cs := by
  rw [isWebAddress, Bool.or_eq_true, List.isPrefixOf_iff_prefix, List.isPrefixOf_iff_prefix]
  simp [schemes]

/-- Settings are accepted exactly if both of their faults are absent. -/
theorem check_eq_ok_iff {config : Config} :
    config.check = .ok () ↔
      isWebAddress (trim config.baseUrl.toList) = true ∧ trim config.firstNodeId.toList ≠ [] := by
  rw [check]
  by_cases hbase : isWebAddress (trim config.baseUrl.toList) = true
  · by_cases hid : trim config.firstNodeId.toList = [] <;> simp [hbase, hid]
  · simp [hbase]

/-- Whether the base is nothing but a scheme and separators, so that it names no host. -/
def IsBare (config : Config) : Prop :=
  ∃ scheme ∈ schemes, ∃ n, trim config.baseUrl.toList = scheme ++ separators n

/-- No scheme ends with a separator. -/
theorem dropEndWhile_scheme {scheme : List Char} (h : scheme ∈ schemes) :
    dropEndWhile isSeparator scheme = scheme := by
  have hall : ∀ scheme ∈ schemes, dropEndWhile isSeparator scheme = scheme := by decide
  exact hall scheme h

/-- A base is bare exactly if its core is a scheme. -/
theorem isBare_iff {config : Config} : config.IsBare ↔ core config.baseUrl.toList ∈ schemes := by
  constructor
  · rintro ⟨scheme, hscheme, n, hbase⟩
    rw [core, hbase, dropEndWhile_append_of_forall _ fun c => isSeparator_of_mem_separators,
      dropEndWhile_scheme hscheme]
    exact hscheme
  · intro hcore
    obtain ⟨run, hrun, hbase⟩ :=
      exists_dropEndWhile_append_eq isSeparator (trim config.baseUrl.toList)
    refine ⟨_, hcore, run.length, ?_⟩
    rw [← eq_separators hrun]
    exact hbase.symm

instance (config : Config) : Decidable config.IsBare := decidable_of_iff _ isBare_iff.symm

/-- The core of a web address is a scheme, or it has something behind two separators. -/
theorem core_of_isWebAddress {base : List Char} (h : isWebAddress (trim base) = true) :
    ∃ scheme ∈ schemes, core base = scheme ∨ ∃ host, core base = scheme ++ ['/', '/'] ++ host := by
  obtain ⟨scheme, hscheme, rest, hrest⟩ := isWebAddress_iff.mp h
  refine ⟨scheme, hscheme, ?_⟩
  rw [core, ← hrest, dropEndWhile_append]
  by_cases hnil : dropEndWhile isSeparator rest = []
  · have hseparators : ∀ c ∈ ['/', '/'], isSeparator c = true :=
      fun c (hmem : c ∈ separators 2) => isSeparator_of_mem_separators hmem
    rw [if_pos hnil, dropEndWhile_append_of_forall scheme hseparators, dropEndWhile_scheme hscheme]
    exact Or.inl rfl
  · rw [if_neg hnil]
    exact Or.inr ⟨_, rfl⟩

/-- No scheme has a separator. -/
theorem separator_not_mem_scheme {scheme : List Char} (h : scheme ∈ schemes) : '/' ∉ scheme := by
  have hall : ∀ scheme ∈ schemes, '/' ∉ scheme := by decide
  exact hall scheme h

/-- A scheme and one separator do not begin an address of the web. -/
theorem isWebAddress_scheme_append {scheme : List Char} (h : scheme ∈ schemes) (id : List Char) :
    isWebAddress (scheme ++ ['/', 'n', 'o', 'd', 'e', '/'] ++ id) = false := by
  rcases List.mem_pair.mp h with rfl | rfl
  · rfl
  · rfl

/-- **The address of a node is one of the web exactly if the core of the base is no scheme.** -/
theorem isWebAddress_node_iff {base : List Char} (h : isWebAddress (trim base) = true)
    (id : List Char) : isWebAddress (node base id) = true ↔ core base ∉ schemes := by
  obtain ⟨scheme, hscheme, hcore | ⟨host, hcore⟩⟩ := core_of_isWebAddress h
  · refine iff_of_false ?_ (not_not.mpr (hcore ▸ hscheme))
    rw [node, hcore, isWebAddress_scheme_append hscheme]
    exact Bool.false_ne_true
  · refine iff_of_true (isWebAddress_iff.mpr ⟨scheme, hscheme, ?_⟩) fun hmem => ?_
    · rw [node, hcore, List.append_assoc, List.append_assoc]
      exact List.prefix_append _ _
    · exact separator_not_mem_scheme hmem (by simp [hcore])

/-- Whatever the base is, the address of a node ends with its id. -/
theorem addressOf_eq (config : Config) (id : String) :
    config.addressOf id =
      String.ofList (core config.baseUrl.toList) ++ "/node/" ++ trimmed id := by
  rw [← String.toList_inj, addressOf, toList_nodeAddress, node]
  simp

/-- **Settings that are accepted lead to addresses of the web, unless their base is bare.**  In either
case the addresses end with the id, behind the segment `node`. If the base is bare, nothing but its
scheme stands in front of this segment. -/
theorem addresses_of_check (config : Config) (h : config.check = .ok ()) :
    (∀ id, (∃ base, config.addressOf id = base ++ "/node/" ++ trimmed id) ∧
      (isWebAddress (config.addressOf id).toList = true ↔ ¬ config.IsBare) ∧
      (config.IsBare → ∃ scheme ∈ schemes,
        config.addressOf id = String.ofList scheme ++ "/node/" ++ trimmed id)) ∧
    (∃ base, config.firstAddress = base ++ "/node/" ++ trimmed config.firstNodeId) ∧
    (isWebAddress config.firstAddress.toList = true ↔ ¬ config.IsBare) := by
  have hbase : isWebAddress (trim config.baseUrl.toList) = true := (check_eq_ok_iff.mp h).1
  have hweb (id : String) :
      isWebAddress (config.addressOf id).toList = true ↔ ¬ config.IsBare := by
    rw [addressOf, toList_nodeAddress, isBare_iff]
    exact isWebAddress_node_iff hbase id.toList
  refine ⟨fun id => ⟨⟨_, addressOf_eq config id⟩, hweb id, fun hbare => ?_⟩,
    ⟨_, addressOf_eq config config.firstNodeId⟩, hweb config.firstNodeId⟩
  exact ⟨_, isBare_iff.mp hbare, addressOf_eq config id⟩

/-- A base with blanks around it and separators at its end, and a base of separators only. -/
theorem addresses_of_check_with_separators :
    let proper : Config := { baseUrl := " https://h// ", firstNodeId := " 7 " }
    let bare : Config := { baseUrl := " http://// " }
    proper.check = .ok () ∧ bare.check = .ok () ∧
    isWebAddress (proper.addressOf " 5 ").toList = true ∧
    isWebAddress proper.firstAddress.toList = true ∧
    (∃ base, proper.firstAddress = base ++ "/node/" ++ trimmed " 7 ") ∧
    ¬ isWebAddress (bare.addressOf "5").toList = true ∧
    ∃ scheme ∈ schemes, bare.addressOf "5" = String.ofList scheme ++ "/node/" ++ trimmed "5" := by
  intro proper bare
  have hproper : proper.check = .ok () := by decide +kernel
  have hbare : bare.check = .ok () := by decide +kernel
  have hhost : ¬ proper.IsBare := by decide +kernel
  have hnone : bare.IsBare := by decide +kernel
  obtain ⟨hid, hends, hfirst⟩ := addresses_of_check proper hproper
  obtain ⟨-, hweb, hscheme⟩ := (addresses_of_check bare hbare).1 "5"
  exact ⟨hproper, hbare, (hid " 5 ").2.1.mpr hhost, hfirst.mpr hhost, hends,
    fun hmem => hweb.mp hmem hnone, hscheme hnone⟩

/-- The base `http://` is accepted, and the addresses built from it are none of the web. -/
theorem bare_base_accepted :
    let config : Config := { baseUrl := "http://" }
    config.check = .ok () ∧
    config.addressOf "5" = "http:/node/5" ∧ ¬ isWebAddress (config.addressOf "5").toList = true ∧
    config.firstAddress = "http:/node/0" ∧ ¬ isWebAddress config.firstAddress.toList = true := by
  decide +kernel

end Config

end GraphBrowser
