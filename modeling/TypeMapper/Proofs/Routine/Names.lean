import TypeMapper.Proofs.Arena.Lookup
import TypeMapper.Proofs.Routine.Modules
import TypeMapper.Proofs.Routine.Spelling
/-!
# Base names of one arena

Base names are settled in order: a name that is taken gets the id behind it, and nothing asks
whether that name is taken as well. Two ids never make one name, so this is the only way for two
mappings to get one base name.

* `RoutineNames.getElem?_settleAll`: each name is settled among those before it.
* `RoutineNames.settled_inj_iff`: when settled names are different.
* `Artifact.ofMapping_gives`: an artifact, its file and its module are named by the base name.
* `RoutineNames.unique_iff`: when the mappings of an arena have names and files of their own.
-/

namespace TypeMapper

namespace RoutineNames

/-! ## 1. Names with an id -/

/-- A name with an id behind it. -/
def numbered (name : String) (id : MappingId) : String := name ++ "_" ++ toString id

theorem settle_of_mem {taken : List String} {id : MappingId} {name : String} (h : name ∈ taken) :
    settle taken id name = numbered name id := if_pos (List.contains_iff_mem.mpr h)

theorem settle_of_not_mem {taken : List String} {id : MappingId} {name : String}
    (h : name ∉ taken) : settle taken id name = name :=
  if_neg fun hc => h (List.contains_iff_mem.mp hc)

theorem underscore_not_mem_toDigits (n : Nat) : '_' ∉ Nat.toDigits 10 n := fun h =>
  absurd (Nat.isDigit_of_mem_toDigits (by decide) (by decide) h) (by decide)

/-- An underscore that nothing behind it repeats is found from the end. -/
theorem eq_of_append_underscore {xs ys ds es : List Char} (hds : '_' ∉ ds) (hes : '_' ∉ es)
    (h : xs ++ '_' :: ds = ys ++ '_' :: es) : ds = es := by
  rcases List.append_eq_append_iff.mp h with ⟨as, -, hrest⟩ | ⟨as, -, hrest⟩
  · cases as with
    | nil => exact (List.cons.inj hrest).2
    | cons c as =>
        rw [(List.cons.inj hrest).2] at hds
        exact absurd (List.mem_append_right as List.mem_cons_self) hds
  · cases as with
    | nil => exact (List.cons.inj hrest).2.symm
    | cons c as =>
        rw [(List.cons.inj hrest).2] at hes
        exact absurd (List.mem_append_right as List.mem_cons_self) hes

/-- The id behind a name can be read off: its digits are what follows the last underscore. -/
theorem eq_of_numbered_eq {v w : String} {i j : MappingId} (h : numbered v i = numbered w j) :
    i = j := by
  have hchars : v.toList ++ '_' :: Nat.toDigits 10 i = w.toList ++ '_' :: Nat.toDigits 10 j := by
    simpa [numbered, Nat.toString_eq_repr] using congrArg String.toList h
  have hdigits := eq_of_append_underscore (underscore_not_mem_toDigits i)
    (underscore_not_mem_toDigits j) hchars
  rw [← Nat.ofDigitChars_ten_toDigits (n := i), hdigits, Nat.ofDigitChars_ten_toDigits]

/-! ## 2. Settling in order -/

/-- **Each name is settled among those settled before it.** -/
theorem getElem?_settleAll {names taken : List String} {id : MappingId} {i : Nat} :
    (settleAll taken id names)[i]? = names[i]?.map
      (settle (((settleAll taken id names).take i).reverse ++ taken) (id + i)) := by
  induction names generalizing taken id i with
  | nil => rfl
  | cons name rest ih =>
      cases i with
      | zero => rfl
      | succ i =>
          have hid : id + 1 + i = id + (i + 1) := by rw [Nat.add_assoc, Nat.add_comm 1]
          simp only [settleAll, List.getElem?_cons_succ, List.take_succ_cons, List.reverse_cons,
            List.append_assoc, List.cons_append, List.nil_append, ih, hid]

variable {names : List String} {i j : Nat} {v w b : String}

/-- A free name stays as it is. -/
theorem getElem?_settleAll_of_not_mem (hv : names[i]? = some v)
    (h : v ∉ (settleAll [] 0 names).take i) : (settleAll [] 0 names)[i]? = some v := by
  rw [getElem?_settleAll, hv, List.append_nil, Option.map_some, Nat.zero_add,
    settle_of_not_mem fun hmem => h (List.mem_reverse.mp hmem)]

/-- A taken name gets the id behind it. -/
theorem getElem?_settleAll_of_mem (hv : names[i]? = some v)
    (h : v ∈ (settleAll [] 0 names).take i) :
    (settleAll [] 0 names)[i]? = some (numbered v i) := by
  rw [getElem?_settleAll, hv, List.append_nil, Option.map_some, Nat.zero_add,
    settle_of_mem (List.mem_reverse.mpr h)]

theorem exists_name_of_settled (h : (settleAll [] 0 names)[i]? = some b) :
    ∃ v, names[i]? = some v := by
  rw [getElem?_settleAll] at h
  obtain ⟨v, hv, -⟩ := Option.map_eq_some_iff.mp h
  exact ⟨v, hv⟩

theorem mem_take_of_getElem? {bases : List String} (h : bases[j]? = some b) (hj : j < i) :
    b ∈ bases.take i :=
  List.mem_of_getElem? (i := j) (by rw [List.getElem?_take_of_lt hj, h])

theorem exists_of_mem_take {bases : List String} (h : b ∈ bases.take i) :
    ∃ k < i, bases[k]? = some b := by
  obtain ⟨k, hk⟩ := List.getElem?_of_mem h
  rw [List.getElem?_take] at hk
  split at hk
  · rename_i hlt
    exact ⟨k, hlt, hk⟩
  · cases hk

/-- Two settled names are the same only if the one with its id is what the other wanted to be. -/
theorem exists_clash (hi : (settleAll [] 0 names)[i]? = some b)
    (hj : (settleAll [] 0 names)[j]? = some b) (hlt : j < i) :
    ∃ v, names[i]? = some v ∧ v ∈ (settleAll [] 0 names).take i ∧
      names[j]? = some (numbered v i) := by
  obtain ⟨v, hv⟩ := exists_name_of_settled hi
  obtain ⟨w, hw⟩ := exists_name_of_settled hj
  have hmem : v ∈ (settleAll [] 0 names).take i := by
    refine Decidable.byContradiction fun hno => ?_
    have hbase := hi.symm.trans (getElem?_settleAll_of_not_mem hv hno)
    exact hno (Option.some.inj hbase ▸ mem_take_of_getElem? hj hlt)
  have hb : b = numbered v i :=
    Option.some.inj (hi.symm.trans (getElem?_settleAll_of_mem hv hmem))
  refine ⟨v, hv, hmem, ?_⟩
  by_cases hw' : w ∈ (settleAll [] 0 names).take j
  · -- both have their ids behind them, and these are different
    have hb' := Option.some.inj (hj.symm.trans (getElem?_settleAll_of_mem hw hw'))
    exact absurd (eq_of_numbered_eq (hb.symm.trans hb')) (Nat.ne_of_gt hlt)
  · have hb' := Option.some.inj (hj.symm.trans (getElem?_settleAll_of_not_mem hw hw'))
    rw [hw, ← hb', hb]

/-- **Settled names are different exactly if** no name that must have its id behind it becomes what
one before it wanted to be. -/
theorem settled_inj_iff (names : List String) :
    (∀ (i j : Nat) b, (settleAll [] 0 names)[i]? = some b →
        (settleAll [] 0 names)[j]? = some b → i = j) ↔
      ∀ (i j : Nat) v, j < i → names[i]? = some v → v ∈ (settleAll [] 0 names).take i →
        names[j]? ≠ some (numbered v i) := by
  refine ⟨fun hinj i j v hlt hv hmem hj => ?_, fun hfree i j b hi hj => ?_⟩
  · have hi := getElem?_settleAll_of_mem hv hmem
    by_cases htaken : numbered v i ∈ (settleAll [] 0 names).take j
    · obtain ⟨k, hk, hbase⟩ := exists_of_mem_take htaken
      exact absurd (hinj i k _ hi hbase) (by omega)
    · exact absurd (hinj i j _ hi (getElem?_settleAll_of_not_mem hj htaken)) (by omega)
  · rcases Nat.lt_trichotomy i j with hlt | heq | hlt
    · obtain ⟨v, hv, hmem, hclash⟩ := exists_clash hj hi hlt
      exact absurd hclash (hfree j i v hlt hv hmem)
    · exact heq
    · obtain ⟨v, hv, hmem, hclash⟩ := exists_clash hi hj hlt
      exact absurd hclash (hfree i j v hlt hv hmem)

end RoutineNames

/-! ## 3. What is named by a base name -/

/-- The module of a mapping has its base name. -/
theorem Emitter.module_gives (e : Emitter) :
    Gives (fun m : MappingModule => e.names.base? e.id = some m.name) e.module := by
  have hname : Gives (fun name => e.names.base? e.id = some name) (e.names.moduleName e.id) := by
    refine (gives_ofOption (e.names.base? e.id) _).bind fun b hb => ?_
    unfold made
    split
    · exact gives_ok hb
    · exact gives_error _
  exact module_holds.imp fun _ hm => hname _ hm.name

namespace Artifact

/-- An artifact has the name that it is given, and holds what was made or why nothing was. -/
theorem ofEmit_gives {Q : ArtifactBody → Prop} {name subject : String} {x : Emit ArtifactBody}
    (hx : Gives Q x) (hskip : ∀ reason, Q (.skipped subject reason)) :
    Gives (fun y => y.name = name ∧ Q y.body) (ofEmit name subject x) := by
  unfold ofEmit
  split
  · exact gives_ok ⟨rfl, hx _ rfl⟩
  · exact gives_ok ⟨rfl, hskip _⟩
  · exact gives_error _

/-- **The artifact of a mapping** has its base name, and the module in it has the same. -/
theorem ofMapping_gives {a : Arena} {c : Config} {names : RoutineNames} {p : MappingId × Mapping}
    {b : String} (hb : names.base? p.1 = some b) :
    Gives (fun x => x.name = b ∧ ∀ m, x.body = .module m → m.name = b)
      (ofMapping a c names p) := by
  have hmodule : Gives (fun body => ∀ m, body = ArtifactBody.module m → m.name = b)
      ((Emitter.ofArena a c names p.1 p.2).module.map .module) := by
    refine (Emitter.module_gives _).map fun n hn m hm => ?_
    rw [← ArtifactBody.module.inj hm]
    exact Option.some.inj (hn.symm.trans hb)
  have hname : (names.base? p.1).getD "" = b := by rw [hb, Option.getD_some]
  unfold ofMapping
  rw [hname]
  exact ofEmit_gives hmodule fun _ _ h => nomatch h

end Artifact

/-! ## 4. The mappings of an arena -/

namespace RoutineNames

variable {a : Arena}

/-- The mappings of an arena share no base name, no file and no module. -/
structure Unique (a : Arena) : Prop where
  bases : ∀ i j b, (ofArena a).base? i = some b → (ofArena a).base? j = some b → i = j
  files : ∀ c p q x y, p ∈ a.entries → q ∈ a.entries →
    Artifact.ofMapping a c (ofArena a) p = .ok x → Artifact.ofMapping a c (ofArena a) q = .ok y →
    x.fileName = y.fileName → p = q
  modules : ∀ c p q x y k l, p ∈ a.entries → q ∈ a.entries →
    Artifact.ofMapping a c (ofArena a) p = .ok x → Artifact.ofMapping a c (ofArena a) q = .ok y →
    x.body = .module k → y.body = .module l → k.name = l.name → p = q

theorem eq_of_fst_eq {p q : MappingId × Mapping} (hp : p ∈ a.entries) (hq : q ∈ a.entries)
    (h : p.1 = q.1) : p = q := by
  have hm := (Arena.mem_entries_iff.mp hp).symm.trans (h ▸ Arena.mem_entries_iff.mp hq)
  exact Prod.ext h (Option.some.inj hm)

/-- Files and modules are shared only where base names are. -/
theorem unique_of_bases
    (h : ∀ i j b, (ofArena a).base? i = some b → (ofArena a).base? j = some b → i = j) :
    Unique a := by
  have hnames : ∀ c p q x y, p ∈ a.entries → q ∈ a.entries →
      Artifact.ofMapping a c (ofArena a) p = .ok x →
      Artifact.ofMapping a c (ofArena a) q = .ok y →
      ∃ b b', (x.name = b ∧ ∀ k, x.body = .module k → k.name = b) ∧
        (y.name = b' ∧ ∀ k, y.body = .module k → k.name = b') ∧ (b = b' → p = q) := by
    intro c p q x y hp hq hx hy
    obtain ⟨b, hb⟩ := exists_base (Arena.mem_entries_iff.mp hp)
    obtain ⟨b', hb'⟩ := exists_base (Arena.mem_entries_iff.mp hq)
    refine ⟨b, b', Artifact.ofMapping_gives hb x hx, Artifact.ofMapping_gives hb' y hy, ?_⟩
    rintro rfl
    exact eq_of_fst_eq hp hq (h _ _ _ hb hb')
  refine ⟨h, fun c p q x y hp hq hx hy hfile => ?_, fun c p q x y k l hp hq hx hy hk hl hname => ?_⟩
  · obtain ⟨b, b', ⟨hxb, -⟩, ⟨hyb, -⟩, heq⟩ := hnames c p q x y hp hq hx hy
    have hxy : x.name = y.name := (String.append_left_inj ".rs").mp hfile
    exact heq (hxb.symm.trans (hxy.trans hyb))
  · obtain ⟨b, b', ⟨-, hkb⟩, ⟨-, hlb⟩, heq⟩ := hnames c p q x y hp hq hx hy
    exact heq ((hkb k hk).symm.trans (hname.trans (hlb l hl)))

theorem getElem?_wanted (a : Arena) (i : MappingId) :
    (a.keys.map (wanted a.keys))[i]? = (a.get? i).map fun m => wanted a.keys m.key := by
  rw [List.getElem?_map, Arena.keys_getElem?, Option.map_map]
  rfl

/-- **The mappings of an arena share no name, no file and no module exactly if** no mapping that
must put its id behind its name gets the name that one before it wanted. -/
theorem unique_iff (a : Arena) :
    Unique a ↔ ∀ i j m n, j < i → a.get? i = some m → a.get? j = some n →
      wanted a.keys m.key ∈ (ofArena a).bases.take i →
      wanted a.keys n.key ≠ numbered (wanted a.keys m.key) i := by
  have hinj := settled_inj_iff (a.keys.map (wanted a.keys))
  constructor
  · intro h i j m n hlt hm hn hmem heq
    refine hinj.mp h.bases i j _ hlt ?_ hmem ?_
    · rw [getElem?_wanted, hm]
      rfl
    · rw [getElem?_wanted, hn, Option.map_some, heq]
  · intro h
    refine unique_of_bases (hinj.mpr fun i j v hlt hv hmem hj => ?_)
    rw [getElem?_wanted] at hv hj
    obtain ⟨m, hm, rfl⟩ := Option.map_eq_some_iff.mp hv
    obtain ⟨n, hn, hw⟩ := Option.map_eq_some_iff.mp hj
    exact h i j m n hlt hm hn hmem hw

/-- Types whose names differ in the case of a letter, or in a digit at the end. -/
def letterSchema : Schema :=
  Schema.ofLists
    [type "A" ["B2", "B"], type "B2" [], type "B" [], type "a" ["b"], type "b" []] []
where
  /-- A type with a text, mapped to others. -/
  type (path : String) (destinations : List String) : TypeDecl :=
    ⟨path, none, false, true, [⟨"text", .scalar "String" false false, false, ⟨true, true⟩, []⟩],
      destinations.map fun d => ⟨.mapTo d, none⟩, []⟩

/-- The mappings between these types. -/
def letterArena : Arena := (Batch.discover letterSchema Config.standard).arena

/-- Two accepted mappings of different types get one base name and one file: the id of the last one
makes the name that the first one has. -/
theorem shared_of_letters :
    (letterArena.keys = [⟨"A", "B2"⟩, ⟨"A", "B"⟩, ⟨"a", "b"⟩] ∧
      letterArena.mappings.map Mapping.isValid = [true, true, true]) ∧
    ((ofArena letterArena).base? 0 = some "a_to_b_2" ∧
      (ofArena letterArena).base? 2 = some "a_to_b_2") ∧
    ((Batch.discover letterSchema Config.standard).artifacts Config.standard).toOption.map
      (fun files => files.map Artifact.fileName) =
        some ["a_to_b_2.rs", "a_to_b.rs", "a_to_b_2.rs"] ∧
    ¬ Unique letterArena := by
  have hbases : (ofArena letterArena).base? 0 = some "a_to_b_2" ∧
      (ofArena letterArena).base? 2 = some "a_to_b_2" := by
    decide +kernel
  refine ⟨by decide +kernel, hbases, by decide +kernel, fun h => ?_⟩
  exact absurd (h.bases 0 2 _ hbases.1 hbases.2) (by decide)

end RoutineNames

end TypeMapper
