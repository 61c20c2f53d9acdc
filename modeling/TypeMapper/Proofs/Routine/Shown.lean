import TypeMapper.Proofs.Routine.Awaits
import TypeMapper.Proofs.Routine.Calls
import TypeMapper.Proofs.Routine.Carries
import TypeMapper.Proofs.Routine.Exits
/-!
# The tokens of a routine

What an expression needs and calls is read off its syntax tree. Its tokens show the same: a mark for
each need, in the closure that is the frame there, and the tokens of each call, all of it in order.

* `Value.Shown`: the tokens of an expression show what it needs and calls; `Shown.each`,
  `Shown.entries`: the closures that are written around slots are their frames.
* `Value.awaits_eq`: the awaits of an expression are among its needs.
* `Emitter.convert_shown`: the tokens of a call.
* `PrimaryRoutine.Shown`: the tokens of a routine; `Emitter.primary_shown`.
-/

namespace TypeMapper

open Code

/-! ## 1. Expressions -/

namespace Value

variable {f : Frame} {v u : Value}

/-- **The tokens of an expression show what it needs and calls**, whatever is around it. -/
def Shown (v : Value) : Prop := ∀ f, Shows f (v.needs f) v.calls v.code

theorem shown_of_inert (h : Inert v.code) (hneeds : ∀ f, v.needs f = []) (hcalls : v.calls = []) :
    v.Shown := fun f => by
  rw [hneeds f, hcalls]
  exact .inert h

/-- What stands for an absent value shows that it leaves. -/
theorem StandsIn.shown (h : v.StandsIn) : v.Shown := by
  cases h with
  | absent => exact shown_of_inert rfl (fun _ => rfl) rfl
  | standard => exact shown_of_inert rfl (fun _ => rfl) rfl
  | fail e => exact fun f => .refusal f (by cases e <;> rfl)
  | dropEntry => exact fun f => .noEntry f

theorem Shown.present (h : v.Shown) : (present v).Shown := fun f =>
  .behind (.inert rfl) ((h f).group .paren)

theorem Shown.orStandard (h : v.Shown) : (orStandard v).Shown := fun f => (h f).before (.inert rfl)

theorem Shown.cases (hv : v.Shown) (hu : u.Shown) {p : Place} (hp : Inert p.code) {binding : String}
    (hb : Inert (words [binding])) : (Value.cases p binding v u).Shown := by
  intro f
  have hmatch : Inert (words ["match"] ++ p.borrow) :=
    (show Inert (words ["match"]) from rfl).append (Place.inert_borrow hp)
  have hpattern : Inert (words ["Some"] ++ parens (words [binding]) ++ op "=>") :=
    ((show Inert (words ["Some"]) from rfl).append (inert_group _ hb)).append rfl
  have hsome : Shows f (v.needs f) v.calls
      (words ["Some"] ++ parens (words [binding]) ++ op "=>" ++ v.code ++ op ",") :=
    ((hpattern.silent f).behind (hv f)).comma
  have harms : Shows f (v.needs f) v.calls
      (words ["Some"] ++ parens (words [binding]) ++ op "=>" ++ v.code ++ op "," ++ words ["None"]
        ++ op "=>") :=
    (hsome.before (d := words ["None"]) (.inert rfl)).before (.inert rfl)
  exact (hmatch.silent f).behind ((harms.append (hu f)).comma.group .brace)

theorem shown_tuple {vs : List Value} (h : ∀ v ∈ vs, v.Shown) : (tuple vs).Shown := by
  intro f
  have helements : Shows f (needsOf f vs) (callsOf vs) (tupleCode vs) := by
    induction vs with
    | nil => exact .inert rfl
    | cons v vs ih =>
        rw [List.forall_mem_cons] at h
        exact (h.1 f).comma.append (ih h.2)
  exact helements.group .paren

theorem shown_construct {type : PathSpelling} {fields : List (String × Value)}
    (htype : Silent type.code) (h : ∀ x ∈ fields, Inert (words [x.1]) ∧ x.2.Shown) :
    (construct type fields false).Shown := by
  intro f
  have hfields : Shows f (fieldNeeds f fields) (fieldCalls fields) (fieldsCode fields) := by
    induction fields with
    | nil => exact .inert rfl
    | cons x fields ih =>
        rw [List.forall_mem_cons] at h
        obtain ⟨⟨hname, hv⟩, hrest⟩ := h
        have hcolon : Inert (words [x.1] ++ op ":") := hname.append rfl
        exact ((hcolon.silent f).behind (hv f)).comma.append (ih hrest)
  have hbody : fieldsCode fields ++ [] = fieldsCode fields := List.append_nil _
  show Shows f _ _ (type.code ++ braces (fieldsCode fields ++ []))
  rw [hbody]
  exact (htype f).behind (hfields.group .brace)

/-! ## 2. Slots -/

variable {ns : List (Frame × Need)} {cs : List RoutineCall} {items inner closure target : Code}

/-- A method that is given a closure. -/
theorem shows_call (hitems : Inert items) (name : String) (hname : Inert (words [name]))
    (h : Shows f ns cs [.group .paren closure]) : Shows f ns cs (items ++ call name closure) := by
  have hmethod : Inert (op "." ++ words [name]) := inert_dot.append hname
  exact (hitems.silent f).behind ((hmethod.silent f).behind h)

/-- Results that are joined are awaited together, and one that fails leaves what is around. -/
theorem shows_joinAll (h : Shows f ns cs inner) :
    Shows f (ns ++ [(f, .await), (f, .failure)]) cs (joinAll inner) := by
  have hjoin : Inert (runtime ["__reexports", "futures", "future", "try_join_all"]) := rfl
  have hawaited := ((hjoin.silent f).behind (h.group .paren)).append ((Shows.await f).append
    (.failure f))
  rw [List.append_nil, List.append_nil] at hawaited
  rw [joinAll, List.append_assoc (_ ++ parens inner)]
  exact hawaited.before (.inert rfl)

theorem inert_collect (target : CollectionKind) : Inert (collect (targetCode target)) := by
  cases target <;> rfl

theorem inert_collectNested (target : MapKind) : Inert (collectNested (mapCode target)) := by
  cases target <;> rfl

/-- **The closure around an element** is the frame of it. -/
theorem Shown.each (h : v.Shown) {items : Items} (hp : Inert items.place.code) {binding : String}
    (hb : Inert (words [binding])) (target : CollectionKind) (g : Gathering) :
    (Value.each items binding v target g).Shown := by
  intro f
  have hclosure : Shows f (v.needs g.elementFrame) v.calls [.group .paren ([.punct '|' false]
      ++ words [binding] ++ [.punct '|' false] ++ g.elementFrame.bodyCode v.code)] :=
    .closure hb (by cases g <;> rfl) (h g.elementFrame)
  have hmapped := shows_call (Items.inert_code hp) "map" rfl hclosure
  have hcollect := (inert_collect target).silent f
  cases g with
  | plain | filtered =>
      have hall := hmapped.before hcollect
      rw [← List.append_nil (v.needs _)] at hall
      exact hall
  | fallible =>
      have hnested : Inert (collectNested (words ["Result"] ++ op "<" ++ targetCode target ++ op ","
          ++ anyCode)) := by
        cases target <;> rfl
      have hall := (hmapped.before (hnested.silent f)).append (.failure f)
      rw [List.append_nil] at hall
      exact hall
  | joined => exact (shows_joinAll hmapped).before hcollect

/-- **The closure around an entry** is the frame of its key and of its value. -/
theorem Shown.entries (hu : u.Shown) (hv : v.Shown) {p : Place} (hp : Inert p.code)
    {keyBinding valueBinding : String} (hk : Inert (words [keyBinding]))
    (hb : Inert (words [valueBinding])) (target : MapKind) (g : Gathering) :
    (Value.entries p keyBinding valueBinding u v target g).Shown := by
  intro f
  have hnames : Inert (parens (words [keyBinding] ++ op "," ++ words [valueBinding])) :=
    inert_group _ ((hk.append inert_comma).append hb)
  have hpair (f : Frame) : Shows f (u.needs f ++ v.needs f) (u.calls ++ v.calls)
      (parens (u.code ++ op "," ++ v.code)) :=
    ((hu f).comma.append (hv f)).group .paren
  have hclosure : Shows f (u.needs g.entryFrame ++ v.needs g.entryFrame) (u.calls ++ v.calls)
      [.group .paren ([.punct '|' false]
        ++ parens (words [keyBinding] ++ op "," ++ words [valueBinding]) ++ [.punct '|' false]
        ++ g.entryFrame.bodyCode (parens (u.code ++ op "," ++ v.code)))] :=
    .closure hnames (by cases g <;> rfl) (hpair g.entryFrame)
  have hiter : Inert (p.code ++ call "iter" []) := hp.append rfl
  have hmapped (name : String) (hname : Inert (words [name])) :=
    shows_call hiter name hname hclosure
  have hcollect := (inert_collectNested target).silent f
  cases g with
  | plain =>
      have hall := (hmapped "map" rfl).before hcollect
      rw [← List.append_nil (u.needs _ ++ v.needs _)] at hall
      exact hall
  | filtered =>
      have hall := (hmapped "filter_map" rfl).before hcollect
      rw [← List.append_nil (u.needs _ ++ v.needs _)] at hall
      exact hall
  | fallible =>
      have htranspose : Inert (call "filter_map" (words ["Result"] ++ op "::"
          ++ words ["transpose"])) := rfl
      have hnested : Inert (collectNested (words ["Result"] ++ op "<" ++ mapCode target ++ op ">"
          ++ op "," ++ anyCode)) := by
        cases target <;> rfl
      have htransposed := (hmapped "map" rfl).before (htranspose.silent f)
      have hall := (htransposed.before (hnested.silent f)).append (.failure f)
      rw [List.append_nil] at hall
      exact hall
  | joined =>
      have hflatten : Inert (call "flatten" []) := rfl
      exact ((shows_joinAll (hmapped "map" rfl)).before (hflatten.silent f)).before hcollect

/-! ## 3. Calls -/

theorem inert_further {names : List String} (h : ∀ n ∈ names, Inert (words [n])) :
    Inert (further names) :=
  inert_flatMap fun n hn => inert_comma.append (h n hn)

/-- A call of a helper, which is awaited if it is asynchronous and cannot fail. -/
theorem shown_of_helper {c : Code} {isAsync : Bool} (hc : Silent c)
    (hcode : v.code = awaited isAsync c) (hneeds : ∀ f, v.needs f = callNeeds f false isAsync)
    (hcalls : v.calls = []) : v.Shown := by
  intro f
  rw [hcode, hneeds, hcalls]
  cases isAsync with
  | false => exact hc f
  | true => exact (hc f).append (.await f)

/-- **A call of a routine** can fail, and is pinned if it is awaited. -/
theorem shown_delegate {c : RoutineCall} (hname : Inert (words [c.routine]))
    (hgiven : Inert c.given) :
    (delegate c.target c.routine c.own c.input c.arguments c.isAsync).Shown := by
  intro f
  obtain ⟨target, routine, own, input, arguments, isAsync⟩ := c
  cases own <;> cases isAsync
  · exact .call f hname hgiven rfl
  · exact .pinned f hname hgiven rfl
  · exact .call f hname hgiven rfl
  · exact .pinned f hname hgiven rfl

/-! ## 4. Awaits -/

/-- The awaits among needs, each with whether its frame waits. -/
def waitsAmong (ns : List (Frame × Need)) : List Bool :=
  ns.filterMap fun n => if n.2 = .await then some (n.1.grants .await) else none

theorem waitsAmong_append (ns ms : List (Frame × Need)) :
    waitsAmong (ns ++ ms) = waitsAmong ns ++ waitsAmong ms := List.filterMap_append

theorem waitsAmong_callNeeds (f : Frame) (fails isAsync : Bool) :
    waitsAmong (callNeeds f fails isAsync) = if isAsync then [f.grants .await] else [] := by
  cases fails <;> cases isAsync <;> rfl

mutual

/-- **The awaits of an expression** are its needs to wait, in order. -/
theorem awaits_eq : ∀ (v : Value) (f : Frame), v.awaits (f.grants .await) = waitsAmong (v.needs f)
  | read .., _ | absent, _ | standard, _ | fail _, _ | dropEntry, _ | copies .., _ => rfl
  | method _ _ _ _ isAsync _, f => (waitsAmong_callNeeds f false isAsync).symm
  | resolve _ _ _ _ isAsync _, f => (waitsAmong_callNeeds f false isAsync).symm
  | delegate _ _ _ _ _ isAsync, f => (waitsAmong_callNeeds f true isAsync).symm
  | present v, f | orStandard v, f | required v, f | inlined _ _ _ _ v, f => awaits_eq v f
  | .cases _ _ v otherwise, f => by
      rw [awaits, needs, waitsAmong_append, awaits_eq v, awaits_eq otherwise]
  | mapped _ _ v, _ | chained _ _ v, _ => awaits_eq v (.plain false)
  | each _ _ v _ g, f => by
      have hv := awaits_eq v g.elementFrame
      rw [needs, waitsAmong_append, ← hv, awaits]
      cases g <;> simp [waitsAmong, Gathering.needs, Gathering.elementFrame, Frame.grants]
  | entries _ _ _ k v _ g, f => by
      have hk := awaits_eq k g.entryFrame
      have hv := awaits_eq v g.entryFrame
      rw [needs, waitsAmong_append, waitsAmong_append, ← hk, ← hv, awaits]
      cases g <;> simp [waitsAmong, Gathering.needs, Gathering.entryFrame, Frame.grants]
  | tuple vs, f => awaitsOf_eq vs f
  | construct _ fields _, f => fieldAwaits_eq fields f

theorem awaitsOf_eq : ∀ (vs : List Value) (f : Frame),
    awaitsOf (f.grants .await) vs = waitsAmong (needsOf f vs)
  | [], _ => rfl
  | v :: rest, f => by
      rw [awaitsOf, needsOf, waitsAmong_append, awaits_eq v, awaitsOf_eq rest]

theorem fieldAwaits_eq : ∀ (fields : List (String × Value)) (f : Frame),
    fieldAwaits (f.grants .await) fields = waitsAmong (fieldNeeds f fields)
  | [], _ => rfl
  | (_, v) :: rest, f => by
      rw [fieldAwaits, fieldNeeds, waitsAmong_append, awaits_eq v, fieldAwaits_eq rest]

end

end Value

namespace Emitter

variable {e : Emitter}

/-! ## 5. Conversions -/

theorem forall_inert_of_mapM {α : Type} {f : α → Emit String} {xs : List α}
    (h : ∀ x, Gives (fun name => Inert (words [name])) (f x)) :
    Gives (fun names => ∀ n ∈ names, Inert (words [n])) (xs.mapM f) :=
  (gives_mapM fun x _ => h x).imp fun names hnames n hn => by
    obtain ⟨-, -, hinert⟩ := exists_of_mem_right hnames hn
    exact hinert

theorem place_subject (p : Place) (byValue acceptsNull : Bool) :
    (subject p byValue acceptsNull).place = p := by
  unfold subject
  split <;> rfl

/-- **The tokens of a conversion** show that it waits and can fail, and which routine it calls. -/
theorem convert_shown (s : Strategy) {p : Place} (hp : Inert p.code) (byValue : Bool) :
    Gives Value.Shown (e.convert (some s) p byValue) := by
  cases s with
  | method c =>
      refine (e.scope.path_silent c.owner).bind fun owner howner => ?_
      refine (spelledName_inert c.name).bind fun name hname => ?_
      refine (forall_inert_of_mapM fun (a : Parameter) => e.parameter_inert (a.name, a.ty)).bind
        fun arguments harguments => gives_ok ?_
      have hsubject := Subject.inert_code (s := subject p byValue c.subject.nullable)
        ((place_subject _ _ _).symm ▸ hp)
      have hmethod := (howner.append inert_colons.silent).append hname.silent
      have hgiven := hsubject.append (Value.inert_further harguments)
      exact Value.shown_of_helper (hmethod.append (hgiven.silent.group .paren)) rfl (fun _ => rfl)
        rfl
  | resolver c =>
      refine (spelledName_inert _).bind fun resolver hresolver => ?_
      refine (e.scope.type_silent c.source).bind fun input hinput => ?_
      refine (e.scope.type_silent c.destination).bind fun output houtput => gives_ok ?_
      have hsubject := Subject.inert_code (s := subject p byValue c.source.nullable)
        ((place_subject _ _ _).symm ▸ hp)
      have htrait : Inert (Value.runtime
          [if c.isAsync then "AsyncValueResolver" else "ValueResolver"] ++ op "::") := by
        cases c.isAsync <;> rfl
      have happlied := Scope.silent_applied (Scope.silent_comma hinput houtput) htrait
      have hmethod := (happlied.append inert_colons.silent).append
        (show Inert (words ["resolve"]) from rfl).silent
      have hgiven := (hresolver.append inert_comma).append hsubject
      exact Value.shown_of_helper (hmethod.append (hgiven.silent.group .paren)) rfl (fun _ => rfl)
        rfl
  | delegate c =>
      refine (gives_true _).bind fun id _ => (gives_true _).bind fun k _ => ?_
      refine (e.names.routine_inert id).bind fun routine hroutine => ?_
      refine (forall_inert_of_mapM fun (q : EntryParameter) => e.parameter_inert q.key).bind
        fun arguments harguments => ?_
      exact gives_ok (Value.shown_delegate
        (c := ⟨id, routine, decide (id = e.id), p, arguments, k.isAsync⟩) hroutine
        (RoutineCall.inert_given hp harguments))

/-! ## 6. Routines -/

/-- **The tokens of a value** in a routine show what it needs and calls. -/
theorem property_shown (m : PropertyMapping) : Gives Value.Shown (e.property m) :=
  Carries.property {
    read := fun p byValue hp =>
      Value.shown_of_inert (Place.inert_read hp byValue) (fun _ => rfl) rfl
    copies := fun items byValue target hp => by
      have hcopy : Inert (Value.call (if byValue then "copied" else "cloned") []) := by
        cases byValue <;> rfl
      exact Value.shown_of_inert (((Items.inert_code hp).append hcopy).append
        (Value.inert_collect target)) (fun _ => rfl) rfl
    standsIn := fun v hv => hv.shown
    call := fun t _ p byValue hp => convert_shown t hp byValue
    present := fun v hv => hv.present
    orStandard := fun v hv => hv.orStandard
    cases := fun p binding v u hp hb hv hu => hv.cases hu hp hb
    each := fun items binding v target g hp hb hv => hv.each hp hb target g
    entries := fun p kb vb k v target g hp hk hb hkey hv => hkey.entries hv hp hk hb target g
    tuple := fun vs hvs => Value.shown_tuple hvs }

theorem primary_literal_shown : Gives (fun r => r.literal.Shown) e.primary := by
  refine primary_parts.imp fun r hr => ?_
  have hfields : Gives (List.Forall₂ (fun _ x => Inert (words [x.1]) ∧ x.2.Shown)
      e.mapping.properties) (e.mapping.properties.mapM e.field) :=
    gives_mapM fun m _ => (spelledName_inert _).bind fun name hname =>
      (property_shown m).bind fun v hv => gives_ok ⟨hname, hv⟩
  refine Value.shown_construct (e.scope.path_silent _ _ hr.destination) fun x hx => ?_
  obtain ⟨-, -, hx⟩ := exists_of_mem_right (hfields _ hr.fields) hx
  exact hx

end Emitter

namespace PrimaryRoutine

/-- The tokens of a function with a body: it is asynchronous if the routine is, takes the parameters
in order behind the source, and results in the destination or an error. -/
def functionCode (r : PrimaryRoutine) (doc generics source body : Code) : Code :=
  doc ++ words (if r.isAsync then ["pub", "async", "fn", r.name] else ["pub", "fn", r.name])
    ++ generics ++ parens (source ++ op "," ++ r.parameters.flatMap fun p =>
      words [p.1] ++ op ":" ++ op "&" ++ p.2.code ++ op ",")
    ++ op "->" ++ words ["Result"] ++ op "<" ++ r.destination.code ++ op "," ++ Frame.errorType
    ++ op ">" ++ braces body

theorem code_eq (r : PrimaryRoutine) : r.code =
    r.functionCode (docLine ("Map `" ++ r.key.source ++ "` to `" ++ r.key.destination ++ "`."))
      r.sourceCode.1 r.sourceCode.2.1
      (r.sourceCode.2.2 ++ r.resolvers.flatMap resolverCode ++ r.endCode) := by
  simp [code, functionCode, resultCode, terminated, angles, List.flatMap_map, Frame.errorType,
    Value.errorCode, Value.runtime]

/-- **What a routine needs**: to refuse an absent source, if there may be one, and what its
destination needs. -/
def needs (r : PrimaryRoutine) : List (Frame × Need) :=
  (if r.sourceByValue then [] else [(.routine r.isAsync, .refusal)])
    ++ r.literal.needs (.routine r.isAsync)

/-- Any routine may be left with an error. -/
theorem grants_needs (r : PrimaryRoutine) (h : r.literal.Placed (.routine r.isAsync)) :
    ∀ n ∈ r.needs, n.1.grants n.2 = true := by
  refine List.forall_mem_append.mpr ⟨fun n hn => ?_, h⟩
  split at hn
  · cases hn
  · exact List.mem_singleton.mp hn ▸ rfl

/-- What is awaited in a routine is awaited for its destination. -/
theorem waitsAmong_needs (r : PrimaryRoutine) :
    Value.waitsAmong r.needs = r.literal.awaits r.isAsync := by
  rw [needs, Value.waitsAmong_append, ← Value.awaits_eq]
  split <;> rfl

/-- **The tokens of a routine show what it needs and calls**: they are those of a function, in the
body of which all of it is shown. -/
def Shown (r : PrimaryRoutine) : Prop := ∃ doc generics source body,
  r.code = r.functionCode doc generics source body ∧
    Shows (.routine r.isAsync) r.needs r.calls body

variable {r : PrimaryRoutine}

/-- What is done about an absent source. -/
theorem guard_shows (r : PrimaryRoutine) (f : Frame) :
    Shows f (if r.sourceByValue then [] else [(f, .refusal)]) [] r.sourceCode.2.2 := by
  unfold sourceCode
  cases r.sourceByValue with
  | true => exact .inert rfl
  | false =>
      have hlet : Inert (words ["let", "Some"] ++ parens (words ["source"]) ++ op "="
          ++ words ["source"] ++ Value.call "into" [] ++ words ["else"]) := rfl
      have hreturn : Shows f [(f, .refusal)] []
          (Value.returnError (Value.failureCode (.nullSource r.key))) := .refusal f rfl
      exact ((hlet.silent f).behind (hreturn.semicolon.group .brace)).semicolon

/-- The end of a routine shows what its destination shows, before the hook or without it. -/
theorem endCode_shows {f : Frame} {ns : List (Frame × Need)} {cs : List RoutineCall}
    (hsource : Silent r.source.code) (h : Shows f ns cs r.literal.code) :
    Shows f ns cs r.endCode := by
  unfold endCode
  split
  · have hlet : Inert (words ["let", "mut", "destination"] ++ op "=") := rfl
    have hhook : Silent (Value.runtime ["AfterMap"] ++ op "::" ++ angles r.source.code) :=
      Scope.silent_applied hsource rfl
    have hcall : Inert (op "::" ++ words ["after_map"]
        ++ parens (op "&" ++ words ["mut", "destination"] ++ op "," ++ words ["source"]) ++ op ";"
        ++ words ["Ok"] ++ parens (words ["destination"])) := rfl
    have hbound := ((hlet.silent f).behind h).semicolon
    have hall := (hbound.before (hhook f)).before (hcall.silent f)
    simpa only [List.append_assoc] using hall
  · exact .behind (.inert rfl) (h.group .paren)

end PrimaryRoutine

namespace Emitter

variable {e : Emitter}

/-- The resolvers are built before anything is needed. -/
theorem resolverBinding_silent (i : ResolverInstance) :
    Gives (fun b => Silent (PrimaryRoutine.resolverCode b)) (e.resolverBinding i) := by
  refine (spelledName_inert _).bind fun name hname => ?_
  refine (e.scope.path_silent i.path).bind fun type htype => ?_
  refine (forall_inert_of_mapM fun (a : EntryParameter) => e.parameter_inert a.key).bind
    fun arguments harguments => gives_ok ?_
  have hlet : Inert (words ["let", name] ++ op "=" ++ op "&") :=
    ((show Inert (words ["let"]) from rfl).append hname).append rfl
  have hgiven : Inert (separated (arguments.map fun a => words [a] ++ Value.call "clone" [])) :=
    inert_separated fun row hrow => by
      obtain ⟨a, ha, rfl⟩ := List.mem_map.mp hrow
      exact (harguments a ha).append rfl
  have hnew := ((hlet.silent.append htype).append inert_colons.silent).append
    (show Inert (words ["new"]) from rfl).silent
  exact (hnew.append (hgiven.silent.group .paren)).append (show Inert (op ";") from rfl).silent

/-- **The tokens of the routine of a mapping** show what it needs and calls. -/
theorem primary_shown : Gives PrimaryRoutine.Shown e.primary := by
  intro r hprimary
  have hr := primary_parts r hprimary
  have hresolvers : Silent (r.resolvers.flatMap PrimaryRoutine.resolverCode) := by
    have hall : Gives (List.Forall₂ (fun _ b => Silent (PrimaryRoutine.resolverCode b))
        e.mapping.resolvers) (e.mapping.resolvers.mapM e.resolverBinding) :=
      gives_mapM fun i _ => resolverBinding_silent i
    refine silent_flatMap fun b hb => ?_
    obtain ⟨-, -, hsilent⟩ := exists_of_mem_right (hall _ hr.resolvers) hb
    exact hsilent
  have hend := PrimaryRoutine.endCode_shows (e.scope.path_silent _ _ hr.source)
    (primary_literal_shown r hprimary (.routine r.isAsync))
  exact ⟨_, _, _, _, r.code_eq, ((r.guard_shows _).before (hresolvers _)).append hend⟩

end Emitter

end TypeMapper
