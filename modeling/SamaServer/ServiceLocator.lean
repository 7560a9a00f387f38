/-
The container that wires the services together.  To use a name is to create
what its provider registers, and that uses the names it is made of first; a
singleton is kept for the next use.  A use returns when no name needs itself
and every name that is needed has a provider, and then each singleton is made
once, of parts that were made before it.
-/
import Mathlib.Logic.Relation
import SamaServer.OrderedMap

namespace SamaServer

universe u

inductive ProviderScope
  | singleton
  | transient
deriving DecidableEq

/-- The names that `register` uses, in this order.  A provider may hand on the
last of them in the place of a new object. -/
structure RegisterProvider (N : Type u) where
  scope : ProviderScope
  uses : List N
  handsOn : Bool
deriving DecidableEq

/-- An object that a provider made, and the objects it was made of. -/
structure ServiceObject (N : Type u) where
  name : N
  parts : List Nat
deriving DecidableEq

inductive LocatorError (N : Type u)
  | noRegisterProvider (name : N)
  | callStackExceeded
deriving DecidableEq

/-- Objects are named by their place in the order of creation. -/
structure ServiceLocator (N : Type u) [DecidableEq N] where
  providersStore : OrderedMap N (RegisterProvider N)
  providersInstances : OrderedMap N Nat
  created : List (ServiceObject N)

namespace ServiceLocator

variable {N : Type u} [DecidableEq N]

/-- What a use returns, and the container after it. -/
abbrev Outcome (N : Type u) [DecidableEq N] (A : Type) :=
  Except (LocatorError N) A × ServiceLocator N

def fresh (registry : OrderedMap N (RegisterProvider N)) : ServiceLocator N :=
  ⟨registry, .empty, []⟩

/-- The uses at the start of a `register`. -/
def useEach (use : ServiceLocator N → N → Outcome N Nat) :
    ServiceLocator N → List N → Outcome N (List Nat)
  | s, [] => (.ok [], s)
  | s, name :: names =>
      match use s name with
      | (.error error, t) => (.error error, t)
      | (.ok id, t) =>
          match useEach use t names with
          | (.error error, t) => (.error error, t)
          | (.ok ids, t) => (.ok (id :: ids), t)

/-- The end of a `register`. -/
def construct (s : ServiceLocator N) (name : N)
    (provider : RegisterProvider N) (parts : List Nat) :
    Nat × ServiceLocator N :=
  match provider.handsOn, parts.getLast? with
  | true, some id => (id, s)
  | _, _ => (s.created.length,
      { s with created := s.created ++ [⟨name, parts⟩] })

def keep (s : ServiceLocator N) (name : N) (scope : ProviderScope) (id : Nat) :
    ServiceLocator N :=
  match scope with
  | .singleton =>
      { s with providersInstances := s.providersInstances.set name id }
  | .transient => s

/-- `use` with so many frames left on the call stack. -/
def createProviderInstance :
    Nat → ServiceLocator N → N → Outcome N Nat
  | 0, s, _ => (.error .callStackExceeded, s)
  | depth + 1, s, name =>
      match s.providersStore.get? name with
      | none => (.error (.noRegisterProvider name), s)
      | some provider =>
          match provider.scope, s.providersInstances.get? name with
          | .singleton, some id => (.ok id, s)
          | _, _ =>
              match useEach (createProviderInstance depth) s
                provider.uses with
              | (.error error, t) => (.error error, t)
              | (.ok parts, t) =>
                  let (id, u) := t.construct name provider parts
                  (.ok id, u.keep name provider.scope id)

/-- The names of the singletons, in the order of registration. -/
def singletons (s : ServiceLocator N) : List N :=
  (s.providersStore.entries.filter (fun (_, provider) =>
    provider.scope = .singleton)).map Prod.fst

def createAllSingletonInstances (depth : Nat) (s : ServiceLocator N) :
    Outcome N (List Nat) :=
  useEach (createProviderInstance depth) s s.singletons

/-! ### What can be resolved -/

/-- To create `name` is to use `used`. -/
def Needs (registry : OrderedMap N (RegisterProvider N)) (used name : N) :
    Prop :=
  ∃ provider, registry.get? name = some provider ∧ used ∈ provider.uses

/-- The name has a provider, and so has everything it is made of, down to
names that need nothing. -/
inductive Resolvable (registry : OrderedMap N (RegisterProvider N)) :
    N → Prop
  | intro {name : N} {provider : RegisterProvider N}
      (hprovider : registry.get? name = some provider)
      (huses : ∀ used ∈ provider.uses, Resolvable registry used) :
      Resolvable registry name

variable {registry : OrderedMap N (RegisterProvider N)} {name used : N}

theorem Resolvable.part (hname : Resolvable registry name)
    (hneeds : Needs registry used name) : Resolvable registry used := by
  obtain ⟨hprovider, huses⟩ := hname
  obtain ⟨provider, hsame, hused⟩ := hneeds
  rw [hprovider, Option.some_inj] at hsame
  subst hsame
  exact huses used hused

/-- What can be resolved does not need itself. -/
theorem Resolvable.irreflexive (hname : Resolvable registry name) :
    ¬ Relation.TransGen (Needs registry) name name := by
  induction hname with
  | @intro name provider hprovider huses ih =>
      intro hcycle
      -- the last name on the way round is one of those that are used
      obtain ⟨used, hway, hneeds⟩ := Relation.TransGen.tail'_iff.1 hcycle
      obtain ⟨_, hsame, hused⟩ := id hneeds
      rw [hprovider, Option.some_inj] at hsame
      subst hsame
      exact ih used hused (Relation.TransGen.head' hneeds hway)

/-! ### How a container grows -/

/-- Objects and instances are only added. -/
structure Extends (s t : ServiceLocator N) : Prop where
  providers : t.providersStore = s.providersStore
  created : s.created <+: t.created
  instances : ∀ name id, s.providersInstances.get? name = some id →
    t.providersInstances.get? name = some id

/-- What a use of the name returns: the instance of a singleton, and an object
of that name unless the provider hands on another one. -/
structure Serves (s : ServiceLocator N) (name : N) (id : Nat) : Prop where
  isCreated : id < s.created.length
  kept : ∀ provider, s.providersStore.get? name = some provider →
    provider.scope = .singleton →
    s.providersInstances.get? name = some id
  named : ∀ provider, s.providersStore.get? name = some provider →
    provider.handsOn = false →
    s.created[id]?.map ServiceObject.name = some name

/-- Every instance is one that its name stands for.  Every object was made of
what the names that it uses stand for, all of them made before it, and the
object of a singleton is its instance. -/
structure Wired (s : ServiceLocator N) : Prop where
  instances : ∀ name id, s.providersInstances.get? name = some id →
    Serves s name id ∧ Resolvable s.providersStore name
  parts : ∀ id object, s.created[id]? = some object → ∃ provider,
    s.providersStore.get? object.name = some provider ∧
    List.Forall₂ (fun part used => part < id ∧ Serves s used part)
      object.parts provider.uses ∧
    (provider.scope = .singleton →
      s.providersInstances.get? object.name = some id)

variable {s t u : ServiceLocator N}

theorem Extends.refl (s : ServiceLocator N) : Extends s s :=
  ⟨rfl, List.prefix_refl _, fun _ _ => id⟩

theorem Extends.trans (hfirst : Extends s t) (hsecond : Extends t u) :
    Extends s u :=
  ⟨hsecond.providers.trans hfirst.providers,
    hfirst.created.trans hsecond.created,
    fun name id hget =>
      hsecond.instances name id (hfirst.instances name id hget)⟩

theorem getElem?_prefixed {A : Type u} {first second : List A}
    (hstart : first <+: second) {index : Nat} (hindex : index < first.length) :
    second[index]? = first[index]? := by
  obtain ⟨rest, rfl⟩ := hstart
  exact List.getElem?_append_left hindex

theorem Serves.extend {id : Nat} (hserves : Serves s name id)
    (hextends : Extends s t) : Serves t name id where
  isCreated :=
    Nat.lt_of_lt_of_le hserves.isCreated hextends.created.length_le
  kept := by
    intro provider hprovider hscope
    rw [hextends.providers] at hprovider
    exact hextends.instances name id (hserves.kept provider hprovider hscope)
  named := by
    intro provider hprovider hhandsOn
    rw [hextends.providers] at hprovider
    rw [getElem?_prefixed hextends.created hserves.isCreated]
    exact hserves.named provider hprovider hhandsOn

theorem wired_fresh (registry : OrderedMap N (RegisterProvider N)) :
    Wired (fresh registry) where
  instances := by
    intro name id hget
    cases hget
  parts := by
    intro id object hget
    cases hget

/-- What a use may do to the container: the instances that are new are those
of names that it needs. -/
structure Grows (needs : N → Prop) (s t : ServiceLocator N) : Prop where
  wired : Wired t
  extended : Extends s t
  new : ∀ name id, t.providersInstances.get? name = some id →
    s.providersInstances.get? name = some id ∨ needs name

/-- A name that stands in the middle of those that `name` needs. -/
abbrev Reaches (registry : OrderedMap N (RegisterProvider N)) (name other : N) :
    Prop := Relation.ReflTransGen (Needs registry) other name

/-- What is known of a use, whether it returns or not. -/
structure UseSpec (s : ServiceLocator N) (name : N)
    (outcome : Outcome N Nat) : Prop where
  grows : Grows (Reaches s.providersStore name) s outcome.2
  result : ∀ id, outcome.1 = .ok id →
    Serves outcome.2 name id ∧ Resolvable s.providersStore name

theorem Grows.refl (hwired : Wired s) {needs : N → Prop} : Grows needs s s :=
  ⟨hwired, .refl s, fun _ _ => Or.inl⟩

theorem Grows.trans {needs : N → Prop} (hfirst : Grows needs s t)
    (hsecond : Grows needs t u) : Grows needs s u where
  wired := hsecond.wired
  extended := hfirst.extended.trans hsecond.extended
  new := by
    intro name id hget
    rcases hsecond.new name id hget with hold | hneeds
    · exact hfirst.new name id hold
    · exact Or.inr hneeds

theorem Grows.mono {needs others : N → Prop} (hgrows : Grows needs s t)
    (hmono : ∀ name, needs name → others name) : Grows others s t :=
  ⟨hgrows.wired, hgrows.extended,
    fun name id hget => (hgrows.new name id hget).imp_right (hmono name)⟩

/-- The uses of a `register`, one after the other. -/
theorem useEach_spec {use : ServiceLocator N → N → Outcome N Nat}
    (huse : ∀ s name, Wired s → UseSpec s name (use s name))
    (names : List N) (s : ServiceLocator N) (hwired : Wired s) :
    Grows (fun other => ∃ name ∈ names, Reaches s.providersStore name other)
        s (useEach use s names).2 ∧
      ∀ ids, (useEach use s names).1 = .ok ids →
        List.Forall₂ (fun id name => Serves (useEach use s names).2 name id)
          ids names ∧
        ∀ name ∈ names, Resolvable s.providersStore name := by
  induction names generalizing s with
  | nil =>
      refine ⟨.refl hwired, ?_⟩
      rintro _ ⟨⟩
      exact ⟨.nil, by rintro name ⟨⟩⟩
  | cons name names ih =>
      have hspec := huse s name hwired
      rw [useEach]
      rcases hfirst : use s name with ⟨outcome, t⟩
      rw [hfirst] at hspec
      have hgrows := hspec.grows.mono (fun other hreaches =>
        (⟨name, List.mem_cons_self, hreaches⟩ : ∃ first ∈ name :: names,
          Reaches s.providersStore first other))
      cases outcome with
      | error error =>
          refine ⟨hgrows, ?_⟩
          rintro _ ⟨⟩
      | ok id =>
          obtain ⟨hserves, hresolvable⟩ := hspec.result id rfl
          obtain ⟨hrest, hresults⟩ := ih t hgrows.wired
          rw [hgrows.extended.providers] at hrest hresults
          have hall := hgrows.trans (hrest.mono
            (fun other ⟨later, hlater, hreaches⟩ =>
              (⟨later, List.mem_cons_of_mem _ hlater, hreaches⟩ :
                ∃ first ∈ name :: names,
                  Reaches s.providersStore first other)))
          rcases hlast : useEach use t names with ⟨outcome, u⟩
          rw [hlast] at hrest hresults hall
          dsimp only
          rw [hlast]
          cases outcome with
          | error error =>
              refine ⟨hall, ?_⟩
              rintro _ ⟨⟩
          | ok ids =>
              refine ⟨hall, ?_⟩
              rintro _ ⟨⟩
              obtain ⟨hserved, hnames⟩ := hresults ids rfl
              refine ⟨.cons (hserves.extend hrest.extended) hserved, ?_⟩
              intro other hother
              rcases List.mem_cons.1 hother with rfl | hlater
              · exact hresolvable
              · exact hnames other hlater

theorem construct_cases (s : ServiceLocator N) (name : N)
    (provider : RegisterProvider N) (parts : List Nat) :
    (∃ id, id ∈ parts ∧ provider.handsOn = true ∧
      s.construct name provider parts = (id, s)) ∨
    s.construct name provider parts = (s.created.length,
      { s with created := s.created ++ [⟨name, parts⟩] }) := by
  rw [construct]
  split
  · next id hhandsOn hlast =>
      exact Or.inl ⟨id, List.mem_of_getLast? hlast, hhandsOn, rfl⟩
  · exact Or.inr rfl

/-- What is kept under a name that had no instance. -/
theorem extends_keep {scope : ProviderScope} {id : Nat}
    (hnone : scope = .singleton → s.providersInstances.get? name = none) :
    Extends s (s.keep name scope id) := by
  cases scope with
  | transient => exact .refl s
  | singleton =>
      refine ⟨rfl, List.prefix_refl _, fun other kept hget => ?_⟩
      rw [keep, OrderedMap.get?_set, if_neg]
      · exact hget
      · rintro rfl
        rw [hnone rfl] at hget
        cases hget

theorem get?_keep {scope : ProviderScope} {id kept : Nat} {other : N}
    (hget : (s.keep name scope id).providersInstances.get? other =
      some kept) :
    s.providersInstances.get? other = some kept ∨
      other = name ∧ kept = id ∧ scope = .singleton := by
  cases scope with
  | transient => exact Or.inl hget
  | singleton =>
      rw [keep, OrderedMap.get?_set] at hget
      split at hget
      · next hsame =>
          exact Or.inr ⟨hsame, (Option.some_inj.1 hget).symm, rfl⟩
      · exact Or.inl hget

theorem created_keep (s : ServiceLocator N) (name : N)
    (scope : ProviderScope) (id : Nat) :
    (s.keep name scope id).created = s.created := by
  cases scope <;> rfl

theorem get?_keep_self (s : ServiceLocator N) (name : N) (id : Nat) :
    (s.keep name .singleton id).providersInstances.get? name = some id := by
  rw [keep, OrderedMap.get?_set, if_pos rfl]

/-- A container stays wired when the instance of a name is kept, and the last
object, if it is new, is that instance. -/
theorem wired_keep {provider : RegisterProvider N} {id : Nat}
    (hwired : Wired t) (hsame : u.providersStore = t.providersStore)
    (hinstances : u.providersInstances = t.providersInstances)
    (hcreated : t.created <+: u.created)
    (hprovider : t.providersStore.get? name = some provider)
    (hresolvable : Resolvable t.providersStore name)
    (hnone : provider.scope = .singleton →
      t.providersInstances.get? name = none)
    (hid : id < u.created.length)
    (hnamed : provider.handsOn = false →
      u.created[id]?.map ServiceObject.name = some name)
    (hnew : ∀ index object, u.created[index]? = some object →
      t.created[index]? = some object ∨ index = id ∧ object.name = name ∧
        List.Forall₂ (fun part used => part < id ∧ Serves t used part)
          object.parts provider.uses) :
    Wired (u.keep name provider.scope id) ∧
      Extends t (u.keep name provider.scope id) ∧
      Serves (u.keep name provider.scope id) name id := by
  have hextends : Extends t (u.keep name provider.scope id) := by
    have hfirst : Extends t u :=
      ⟨hsame, hcreated, fun other kept hget => hinstances ▸ hget⟩
    exact hfirst.trans (extends_keep (fun hscope => by
      rw [hinstances]
      exact hnone hscope))
  have hserves : Serves (u.keep name provider.scope id) name id := by
    refine ⟨?_, fun found hfound hscope => ?_, fun found hfound hhandsOn => ?_⟩
    · rw [created_keep]
      exact hid
    · rw [hextends.providers, hprovider, Option.some_inj] at hfound
      rw [hfound, hscope]
      exact get?_keep_self u name id
    · rw [hextends.providers, hprovider, Option.some_inj] at hfound
      rw [created_keep]
      exact hnamed (hfound ▸ hhandsOn)
  refine ⟨⟨fun other kept hget => ?_, fun index object hget => ?_⟩, hextends,
    hserves⟩
  · rw [hextends.providers]
    rcases get?_keep hget with hold | ⟨rfl, rfl, -⟩
    · rw [hinstances] at hold
      obtain ⟨hserved, hknown⟩ := hwired.instances other kept hold
      exact ⟨hserved.extend hextends, hknown⟩
    · exact ⟨hserves, hresolvable⟩
  · rw [created_keep] at hget
    rw [hextends.providers]
    rcases hnew index object hget with hold | ⟨rfl, rfl, hparts⟩
    · obtain ⟨found, hfound, hparts, hkept⟩ := hwired.parts index object hold
      refine ⟨found, hfound, ?_, fun hscope =>
        hextends.instances _ _ (hkept hscope)⟩
      exact hparts.imp (fun part used hpart =>
        ⟨hpart.1, hpart.2.extend hextends⟩)
    · refine ⟨provider, hprovider, ?_, fun hscope =>
        hserves.kept provider (hextends.providers ▸ hprovider) hscope⟩
      exact hparts.imp (fun part used hpart =>
        ⟨hpart.1, hpart.2.extend hextends⟩)

theorem isCreated_of_mem {parts : List Nat} {names : List N}
    (hparts : List.Forall₂ (fun part used => Serves t used part) parts names)
    {id : Nat} (hid : id ∈ parts) : id < t.created.length := by
  induction hparts with
  | nil => cases hid
  | cons hserves _ ih =>
      rcases List.mem_cons.1 hid with rfl | hrest
      · exact hserves.isCreated
      · exact ih hrest

/-- The end of a `register`, once what it uses is there. -/
theorem register_spec {provider : RegisterProvider N} {parts : List Nat}
    (hwired : Wired t)
    (hprovider : t.providersStore.get? name = some provider)
    (hresolvable : Resolvable t.providersStore name)
    (hnone : provider.scope = .singleton →
      t.providersInstances.get? name = none)
    (hparts : List.Forall₂ (fun part used => Serves t used part) parts
      provider.uses) :
    let registered := t.construct name provider parts
    let last := registered.2.keep name provider.scope registered.1
    (Wired last ∧ Extends t last ∧ Serves last name registered.1) ∧
      ∀ other id, last.providersInstances.get? other = some id →
        t.providersInstances.get? other = some id ∨ other = name := by
  rcases t.construct_cases name provider parts with ⟨id, hid, hhandsOn, hsame⟩ |
    hsame
  · rw [hsame]
    refine ⟨wired_keep hwired rfl rfl (List.prefix_refl _) hprovider
      hresolvable hnone (isCreated_of_mem hparts hid) (fun hnot => ?_)
      (fun index object hget => Or.inl hget), fun other kept hget => ?_⟩
    · rw [hhandsOn] at hnot
      cases hnot
    · exact (get?_keep hget).imp_right And.left
  · rw [hsame]
    refine ⟨wired_keep hwired rfl rfl (List.prefix_append _ _) hprovider
      hresolvable hnone (by simp) (fun _ => by simp)
      (fun index object hget => ?_), fun other kept hget => ?_⟩
    · dsimp only at hget
      rw [List.getElem?_append] at hget
      split at hget
      · exact Or.inl hget
      · next hindex =>
          obtain ⟨hlength, rfl⟩ := List.getElem?_eq_some_iff.1 hget
          rw [List.length_singleton, Nat.lt_one_iff] at hlength
          simp only [hlength, List.getElem_cons_zero]
          refine Or.inr ⟨by omega, trivial, ?_⟩
          exact hparts.imp (fun part used hserves =>
            ⟨hserves.isCreated, hserves⟩)
    · exact (get?_keep hget).imp_right And.left

/-- A use keeps the container wired and returns what its name stands for;
the instances that it adds are needed by the name. -/
theorem createProviderInstance_spec (depth : Nat) (s : ServiceLocator N)
    (name : N) (hwired : Wired s) :
    UseSpec s name (createProviderInstance depth s name) := by
  induction depth generalizing s name with
  | zero =>
      refine ⟨.refl hwired, ?_⟩
      rintro _ ⟨⟩
  | succ depth ih =>
      rw [createProviderInstance]
      split
      · refine ⟨.refl hwired, ?_⟩
        rintro _ ⟨⟩
      · next provider hprovider =>
          split
          · next id hscope hget =>
              refine ⟨.refl hwired, ?_⟩
              rintro _ ⟨⟩
              exact hwired.instances name id hget
          · next hfree =>
              have hnone : provider.scope = .singleton →
                  s.providersInstances.get? name = none := by
                intro hscope
                cases hget : s.providersInstances.get? name with
                | none => rfl
                | some id => exact absurd hget (hfree id hscope)
              obtain ⟨hgrows, hresults⟩ := useEach_spec (fun s name => ih s name)
                provider.uses s hwired
              have hreaches : Grows (Reaches s.providersStore name) s _ :=
                hgrows.mono (fun other ⟨used, hused, hway⟩ =>
                  hway.tail ⟨provider, hprovider, hused⟩)
              rcases huses : useEach (createProviderInstance depth) s
                provider.uses with ⟨outcome, t⟩
              rw [huses] at hgrows hresults hreaches
              cases outcome with
              | error error =>
                  refine ⟨hreaches, ?_⟩
                  rintro _ ⟨⟩
              | ok parts =>
                  obtain ⟨hparts, hnames⟩ := hresults parts rfl
                  have hresolvable : Resolvable s.providersStore name :=
                    .intro hprovider hnames
                  have hproviders := hgrows.extended.providers
                  -- nothing that `name` uses has kept an instance of `name`
                  have hstill : provider.scope = .singleton →
                      t.providersInstances.get? name = none := by
                    intro hscope
                    cases hget : t.providersInstances.get? name with
                    | none => rfl
                    | some id =>
                        rcases hgrows.new name id hget with hold |
                          ⟨used, hused, hway⟩
                        · rw [hnone hscope] at hold
                          cases hold
                        · exact absurd (Relation.TransGen.tail' hway
                            ⟨provider, hprovider, hused⟩)
                            hresolvable.irreflexive
                  obtain ⟨⟨hlast, hextends, hserves⟩, hnew⟩ := register_spec
                    hgrows.wired (hproviders ▸ hprovider)
                    (hproviders ▸ hresolvable) hstill hparts
                  refine ⟨⟨hlast, hgrows.extended.trans hextends, ?_⟩, ?_⟩
                  · intro other id hget
                    rcases hnew other id hget with hold | rfl
                    · exact hreaches.new other id hold
                    · exact Or.inr .refl
                  · rintro _ ⟨⟩
                    exact ⟨hserves, hresolvable⟩

/-! ### Which uses return -/

/-- More frames change nothing of uses that return. -/
theorem useEach_mono {use more : ServiceLocator N → N → Outcome N Nat}
    (huse : ∀ s name id t, use s name = (.ok id, t) →
      more s name = (.ok id, t))
    (names : List N) {s t : ServiceLocator N} {ids : List Nat}
    (huses : useEach use s names = (.ok ids, t)) :
    useEach more s names = (.ok ids, t) := by
  induction names generalizing s ids with
  | nil => exact huses
  | cons name names ih =>
      rw [useEach] at huses ⊢
      rcases hfirst : use s name with ⟨_ | id, u⟩
      · rw [hfirst] at huses
        cases huses
      · rw [hfirst] at huses
        rw [huse s name id u hfirst]
        dsimp only at huses ⊢
        rcases hrest : useEach use u names with ⟨_ | rest, v⟩
        · rw [hrest] at huses
          cases huses
        · rw [hrest] at huses
          cases huses
          rw [ih hrest]

theorem createProviderInstance_succ (depth : Nat) {s t : ServiceLocator N}
    {name : N} {id : Nat}
    (hcreate : createProviderInstance depth s name = (.ok id, t)) :
    createProviderInstance (depth + 1) s name = (.ok id, t) := by
  induction depth generalizing s t name id with
  | zero => cases hcreate
  | succ depth ih =>
      rw [createProviderInstance] at hcreate ⊢
      split at hcreate
      · cases hcreate
      · split at hcreate
        · exact hcreate
        · rcases huses : useEach (createProviderInstance depth) s _ with
            ⟨_ | parts, u⟩
          · rw [huses] at hcreate
            cases hcreate
          · rw [huses] at hcreate
            rw [useEach_mono (fun _ _ _ _ => ih) _ huses]
            exact hcreate

theorem createProviderInstance_mono {depth more : Nat} (hle : depth ≤ more)
    {s t : ServiceLocator N} {name : N} {id : Nat}
    (hcreate : createProviderInstance depth s name = (.ok id, t)) :
    createProviderInstance more s name = (.ok id, t) := by
  induction hle with
  | refl => exact hcreate
  | step _ ih => exact createProviderInstance_succ _ ih

/-- Uses that return one by one return one after the other. -/
theorem useEach_ok {use : ServiceLocator N → N → Outcome N Nat}
    (huse : ∀ s name, Wired s → UseSpec s name (use s name))
    {names : List N} (hnames : ∀ name ∈ names, ∀ s, Wired s →
      s.providersStore = registry → ∃ id t, use s name = (.ok id, t))
    (s : ServiceLocator N) (hwired : Wired s)
    (hregistry : s.providersStore = registry) :
    ∃ ids t, useEach use s names = (.ok ids, t) := by
  induction names generalizing s with
  | nil => exact ⟨[], s, rfl⟩
  | cons name names ih =>
      obtain ⟨id, t, hfirst⟩ := hnames name List.mem_cons_self s hwired
        hregistry
      have hspec := huse s name hwired
      rw [hfirst] at hspec
      obtain ⟨ids, u, hrest⟩ := ih (fun other hother =>
        hnames other (List.mem_cons_of_mem _ hother)) t hspec.grows.wired
        (hspec.grows.extended.providers.trans hregistry)
      refine ⟨id :: ids, u, ?_⟩
      rw [useEach, hfirst]
      dsimp only
      rw [hrest]

/-- The use of the name returns with so many frames. -/
def ReturnsWithin (registry : OrderedMap N (RegisterProvider N)) (name : N)
    (depth : Nat) : Prop :=
  ∀ s : ServiceLocator N, Wired s → s.providersStore = registry →
    ∃ id t, createProviderInstance depth s name = (.ok id, t)

theorem ReturnsWithin.mono {depth more : Nat}
    (hreturns : ReturnsWithin registry name depth) (hle : depth ≤ more) :
    ReturnsWithin registry name more := by
  intro s hwired hregistry
  obtain ⟨id, t, hcreate⟩ := hreturns s hwired hregistry
  exact ⟨id, t, createProviderInstance_mono hle hcreate⟩

theorem exists_common_depth {names : List N}
    (hnames : ∀ name ∈ names, ∃ depth, ReturnsWithin registry name depth) :
    ∃ depth, ∀ name ∈ names, ReturnsWithin registry name depth := by
  induction names with
  | nil => exact ⟨0, by rintro name ⟨⟩⟩
  | cons first rest ih =>
      obtain ⟨low, hlow⟩ := hnames first List.mem_cons_self
      obtain ⟨high, hhigh⟩ := ih (fun name hname =>
        hnames name (List.mem_cons_of_mem _ hname))
      refine ⟨max low high, fun name hname => ?_⟩
      rcases List.mem_cons.1 hname with rfl | hlater
      · exact hlow.mono (Nat.le_max_left low high)
      · exact (hhigh name hlater).mono (Nat.le_max_right low high)

/-- With enough frames the use of a name that can be resolved returns. -/
theorem Resolvable.exists_depth (hname : Resolvable registry name) :
    ∃ depth, ReturnsWithin registry name depth := by
  induction hname with
  | @intro name provider hprovider huses ih =>
      obtain ⟨depth, hdepth⟩ := exists_common_depth ih
      refine ⟨depth + 1, fun s hwired hregistry => ?_⟩
      rw [createProviderInstance, hregistry, hprovider]
      dsimp only
      split
      · next id _ _ => exact ⟨id, s, rfl⟩
      · obtain ⟨parts, t, hparts⟩ := useEach_ok
          (createProviderInstance_spec depth) hdepth s hwired hregistry
        rw [hparts]
        exact ⟨_, _, rfl⟩

/-! ### Runs -/

/-- What the server asks the container for, with the frames that are left. -/
inductive LocatorCall (N : Type u)
  | use (depth : Nat) (name : N)
  | createAllSingletonInstances (depth : Nat)

def step (s : ServiceLocator N) : LocatorCall N → ServiceLocator N
  | .use depth name => (createProviderInstance depth s name).2
  | .createAllSingletonInstances depth =>
      (createAllSingletonInstances depth s).2

/-- The container after calls that returned or failed. -/
def run (registry : OrderedMap N (RegisterProvider N))
    (calls : List (LocatorCall N)) : ServiceLocator N :=
  calls.foldl step (fresh registry)

theorem wired_step (hwired : Wired s) (call : LocatorCall N) :
    Wired (s.step call) ∧ Extends s (s.step call) := by
  cases call with
  | use depth name =>
      have hgrows := (createProviderInstance_spec depth s name hwired).grows
      exact ⟨hgrows.wired, hgrows.extended⟩
  | createAllSingletonInstances depth =>
      have hgrows := (useEach_spec (createProviderInstance_spec depth)
        s.singletons s hwired).1
      exact ⟨hgrows.wired, hgrows.extended⟩

theorem wired_foldl (calls : List (LocatorCall N)) (hwired : Wired s) :
    Wired (calls.foldl step s) ∧ Extends s (calls.foldl step s) := by
  induction calls generalizing s with
  | nil => exact ⟨hwired, .refl s⟩
  | cons call calls ih =>
      obtain ⟨hnext, hextends⟩ := wired_step hwired call
      obtain ⟨hlast, hrest⟩ := ih hnext
      exact ⟨hlast, hextends.trans hrest⟩

theorem wired_run (registry : OrderedMap N (RegisterProvider N))
    (calls : List (LocatorCall N)) :
    Wired (run registry calls) ∧
      (run registry calls).providersStore = registry := by
  obtain ⟨hwired, hextends⟩ := wired_foldl calls (wired_fresh registry)
  exact ⟨hwired, hextends.providers⟩

theorem Resolvable.use (hname : Resolvable registry name)
    (calls : List (LocatorCall N)) :
    ∃ bound id t, ∀ depth, bound ≤ depth →
      createProviderInstance depth (run registry calls) name =
        (.ok id, t) := by
  obtain ⟨hwired, hregistry⟩ := wired_run registry calls
  obtain ⟨bound, hbound⟩ := hname.exists_depth
  obtain ⟨id, t, hcreate⟩ := hbound _ hwired hregistry
  exact ⟨bound, id, t, fun depth hdepth =>
    createProviderInstance_mono hdepth hcreate⟩

/-- A service made of a repository, and an operation made of both. -/
def serviceRegistry : OrderedMap Nat (RegisterProvider Nat) :=
  ((OrderedMap.empty.set 0 ⟨.singleton, [], false⟩).set 1
    ⟨.singleton, [0], false⟩).set 2 ⟨.transient, [1, 0], false⟩

/-- A transient that is not handed on is a new object. -/
theorem transient_new {depth : Nat} {provider : RegisterProvider N} {id : Nat}
    (hwired : Wired s) (hprovider : s.providersStore.get? name = some provider)
    (hscope : provider.scope = .transient)
    (hhandsOn : provider.handsOn = false)
    (hcreate : createProviderInstance depth s name = (.ok id, t)) :
    s.created.length ≤ id := by
  cases depth with
  | zero => cases hcreate
  | succ depth =>
      rw [createProviderInstance, hprovider] at hcreate
      dsimp only at hcreate
      rw [hscope] at hcreate
      have hspec := (useEach_spec (createProviderInstance_spec depth)
        provider.uses s hwired).1
      rcases huses : useEach (createProviderInstance depth) s provider.uses
        with ⟨_ | parts, u⟩
      · rw [huses] at hcreate
        cases hcreate
      · rw [huses] at hcreate hspec
        rcases u.construct_cases name provider parts with
          ⟨_, -, hnot, -⟩ | hnew
        · rw [hhandsOn] at hnot
          cases hnot
        · dsimp only at hcreate
          rw [hnew] at hcreate
          cases hcreate
          exact hspec.extended.created.length_le

/-- Two uses of one name in a run.  A singleton is answered with the instance
of the first use, and nothing else is created for it; a transient is answered
with a new object each time. -/
theorem run_use_twice (registry : OrderedMap N (RegisterProvider N))
    (earlier later : List (LocatorCall N)) (name : N)
    {provider : RegisterProvider N}
    (hprovider : registry.get? name = some provider)
    {depth again first second : Nat} {t : ServiceLocator N}
    (hfirst : (createProviderInstance depth (run registry earlier) name).1 =
      .ok first)
    (hsecond : createProviderInstance again
      (run registry (earlier ++ .use depth name :: later)) name =
        (.ok second, t)) :
    (provider.scope = .singleton → second = first ∧
      t = run registry (earlier ++ .use depth name :: later)) ∧
    (provider.scope = .transient → provider.handsOn = false →
      first < second) := by
  obtain ⟨hwired, hregistry⟩ := wired_run registry earlier
  have hspec := createProviderInstance_spec depth _ name hwired
  obtain ⟨hserves, -⟩ := hspec.result first hfirst
  have hlater : run registry (earlier ++ .use depth name :: later) =
      later.foldl step (createProviderInstance depth (run registry earlier)
        name).2 := by
    rw [run, List.foldl_append]
    rfl
  rw [hlater] at hsecond ⊢
  obtain ⟨hlast, hextends⟩ := wired_foldl later hspec.grows.wired
  have hproviders := (hspec.grows.extended.trans hextends).providers
  rw [hregistry] at hproviders
  have hlookup : (later.foldl step (createProviderInstance depth
      (run registry earlier) name).2).providersStore.get? name =
        some provider := by
    rw [hproviders]
    exact hprovider
  have hstill := hserves.extend hextends
  refine ⟨fun hscope => ?_, fun hscope hhandsOn => ?_⟩
  · have hkept := hstill.kept provider hlookup hscope
    cases again with
    | zero => cases hsecond
    | succ again =>
        rw [createProviderInstance, hproviders, hprovider] at hsecond
        dsimp only at hsecond
        rw [hscope, hkept] at hsecond
        cases hsecond
        exact ⟨rfl, rfl⟩
  · exact Nat.lt_of_lt_of_le hstill.isCreated (transient_new hlast
      hlookup hscope hhandsOn hsecond)

theorem run_use_twice_service :
    (∃ id t, createProviderInstance 3
      (run serviceRegistry [.use 3 1, .use 3 2]) 1 = (.ok id, t) ∧
        id = 1 ∧ t = run serviceRegistry [.use 3 1, .use 3 2]) ∧
    (∃ first second t,
      (createProviderInstance 3 (run serviceRegistry []) 2).1 = .ok first ∧
      createProviderInstance 3 (run serviceRegistry [.use 3 2, .use 3 1]) 2 =
        (.ok second, t) ∧ first < second) := by
  have hservice : serviceRegistry.get? 1 =
      some ⟨.singleton, [0], false⟩ := rfl
  have honce : (createProviderInstance 3 (run serviceRegistry []) 1).1 =
      .ok 1 := by decide +kernel
  have hagain : createProviderInstance 3
      (run serviceRegistry [.use 3 1, .use 3 2]) 1 =
        (.ok 1, run serviceRegistry [.use 3 1, .use 3 2]) := rfl
  have hoperation : serviceRegistry.get? 2 =
      some ⟨.transient, [1, 0], false⟩ := rfl
  have hfirst : (createProviderInstance 3 (run serviceRegistry []) 2).1 =
      .ok 2 := by decide +kernel
  have hsecond : createProviderInstance 3
      (run serviceRegistry [.use 3 2, .use 3 1]) 2 =
        (.ok 3, (createProviderInstance 3
          (run serviceRegistry [.use 3 2, .use 3 1]) 2).2) :=
    Prod.ext (by decide +kernel) rfl
  exact ⟨⟨1, _, hagain, (run_use_twice serviceRegistry [] [.use 3 2] 1
      hservice honce hagain).1 rfl⟩,
    ⟨2, 3, _, hfirst, hsecond, (run_use_twice serviceRegistry [] [.use 3 1] 2
      hoperation hfirst hsecond).2 rfl rfl⟩⟩

theorem createAllSingletonInstances_ok
    (hnames : ∀ name ∈ (fresh registry).singletons,
      Resolvable registry name) :
    ∃ bound ids s, (∀ depth, bound ≤ depth →
      createAllSingletonInstances depth (fresh registry) = (.ok ids, s)) ∧
      List.Forall₂ (fun id name => Serves s name id) ids
        (fresh registry).singletons := by
  have hwired := wired_fresh registry
  obtain ⟨bound, hbound⟩ := exists_common_depth
    (fun name hname => (hnames name hname).exists_depth)
  obtain ⟨ids, s, hall⟩ := useEach_ok (createProviderInstance_spec bound)
    hbound (fresh registry) hwired rfl
  have hspec := (useEach_spec (createProviderInstance_spec bound)
    (fresh registry).singletons (fresh registry) hwired).2
  rw [hall] at hspec
  exact ⟨bound, ids, s, fun depth hdepth => useEach_mono
    (fun _ _ _ _ => createProviderInstance_mono hdepth) _ hall,
    (hspec ids rfl).1⟩

/-- The names that can be resolved in so many rounds. -/
def resolvedIn (registry : OrderedMap N (RegisterProvider N)) : Nat → List N
  | 0 => []
  | rounds + 1 =>
      let known := resolvedIn registry rounds
      (registry.entries.filter (fun (_, provider) =>
        provider.uses.all (fun used => used ∈ known))).map Prod.fst

theorem resolvable_of_mem {rounds : Nat}
    (hname : name ∈ resolvedIn registry rounds) : Resolvable registry name := by
  induction rounds generalizing name with
  | zero => cases hname
  | succ rounds ih =>
      obtain ⟨⟨_, provider⟩, hentry, rfl⟩ := List.mem_map.1 hname
      obtain ⟨hmem, hall⟩ := List.mem_filter.1 hentry
      refine .intro ((registry.mem_entries_iff _ _).1 hmem)
        (fun used hused => ?_)
      exact ih (of_decide_eq_true (List.all_eq_true.1 hall used hused))

end ServiceLocator

end SamaServer
