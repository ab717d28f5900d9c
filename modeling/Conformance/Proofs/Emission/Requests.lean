import Conformance.Proofs.Emission.Closure
import Conformance.Proofs.Emission.DeclaredWords
import Conformance.Proofs.Emission.Tags

namespace Conformance

/-!
# Sequences of emissions

One registry can serve any number of emissions and generations, of any schemas and with any
names for their roots.  Some of them may fail, and what they registered before they failed
stays.  Through all of that the registry only grows at its end, and it is in order at any
time: a declaration uses only names that were registered before it.  In particular none uses
its own name, or one that comes later or is missing.

The same is found in the texts, if those are read.  Every word in the types of a declaration is
the name of a declaration in front of it or is brought along by the language.  A schema that
declares a type under a name of the latter kind is not noticed, though, and then its own
declaration can refer to itself.
-/

namespace Nominal

/-- What is asked of the emitter: the type of a node, or the declarations of a schema. -/
inductive Request where
  | emit (rootName : Option String) (schema : Schema) (id : NodeId)
  | generate (rootName : Option String) (schema : Schema)

namespace Request

variable {mode : RegistryMode} {requests : List Request} {before : Registry}

/-- How a request is served. -/
def emission : Request → Emitting String
  | .emit rootName schema id => Nominal.emit rootName (schema.shape id)
  | .generate rootName schema => Nominal.generate rootName schema

/-- The registry that a request leaves, whether it succeeds or fails. -/
def leaves (request : Request) (before : Registry) : Registry := (request.emission.run before).2

/-- The registry after some requests, served one after another from an empty one on. -/
def registryAfter (mode : RegistryMode) (requests : List Request) : Registry :=
  requests.foldl (fun registry request => request.leaves registry) (.empty mode)

/-- What a request can declare: the nodes that its walk comes to, and an alias for a root
that is given a name. -/
def Tells : Request → Declaration → Prop
  | .emit rootName schema id, declaration =>
      ∃ site, Site.Reaches ⟨schema.shape id, .type⟩ site ∧ site.told? rootName = some declaration
  | .generate rootName schema, declaration =>
      (∃ site, Site.Reaches ⟨schema.rootShape, .type⟩ site ∧
        site.told? rootName = some declaration) ∨
      ∃ name, rootName = some name ∧
        declaration = .alias name (typeRef rootName schema.rootShape)

end Request

/-! ## One request -/

section

variable {rootName : Option String} {schema : Schema} {before : Registry}
variable {tells : Declaration → Prop}

/-- A generation leaves what the plan of its root leaves, and besides an alias at most. -/
theorem generate_leaves (rootName : Option String) (schema : Schema) (before : Registry) :
    ((generate rootName schema).run before).2 = (rootPlan rootName schema).leaves before ∨
      ∃ name between fresh, rootName = some name ∧
        (rootPlan rootName schema).Leads before between ∧
        between.insert name (aliasText name (reference rootName schema.rootShape)) =
          .ok (fresh, ((generate rootName schema).run before).2) := by
  rw [generate, emit_eq, Plan.answering_bind, Emitting.run_bind]
  rcases Plan.leads_or_fails (rootPlan rootName schema) before with leads | ⟨error, fails⟩
  case inr =>
    rw [show (typePlan rootName schema.rootShape []).perform.run before =
      (.error error, (rootPlan rootName schema).leaves before) from fails]
    exact .inl rfl
  rw [show (typePlan rootName schema.rootShape []).perform.run before =
    (.ok (), (rootPlan rootName schema).leaves before) from leads]
  revert leads
  generalize (rootPlan rootName schema).leaves before = between
  intro leads
  cases rootName with
  | none =>
      refine .inl ?_
      change ((if between.definitions.isEmpty = true then _ else _ : Emitting String).run between).2 = _
      split <;> rfl
  | some name =>
      generalize ended : Prod.snd _ = after
      change ((if (!between.contains name) = true then _ else _ : Emitting String).run between).2 =
        after at ended
      split at ended
      case isFalse => exact .inl ended.symm
      case isTrue unknown =>
        have absent : between.get? name = none := by simpa [Registry.contains] using unknown
        rw [Emitting.run_bind, Emitting.run_declare, Registry.insert_unknown absent] at ended
        refine .inr ⟨name, between, true, rfl, leads, ?_⟩
        rw [Registry.insert_unknown absent, ← ended]
        rfl

end

namespace Request

section

variable {request : Request} {before : Registry} {tells : Declaration → Prop}

theorem leaves_emit (rootName : Option String) (schema : Schema) (id : NodeId)
    (before : Registry) :
    (emit rootName schema id).leaves before =
      (typePlan rootName (schema.shape id) []).leaves before := by
  rw [leaves, emission, emit_eq, Plan.answering, Emitting.run_bind, Plan.leaves]
  rcases (typePlan rootName (schema.shape id) []).perform.run before with ⟨result, after⟩
  cases result <;> rfl

/-- A request adds at the end. -/
theorem leaves_keeps (request : Request) (before : Registry) :
    before.definitions <+: (request.leaves before).definitions := by
  cases request with
  | emit rootName schema id =>
      rw [leaves_emit]
      exact Plan.leaves_keeps _ before
  | generate rootName schema =>
      rcases generate_leaves rootName schema before with equal | ⟨name, between, fresh, _, leads, aliased⟩
      · rw [leaves, emission, equal]
        exact Plan.leaves_keeps _ before
      · rw [← leads.leaves_eq] at aliased
        exact (Plan.leaves_keeps _ before).trans (Registry.insert_keeps aliased)

/-- A plan that needs nothing leaves a registry in order. -/
theorem plan_leaves_inOrder {rootName : Option String} {shape : Shape}
    (all : Site.AllTold tells rootName ⟨shape, .type⟩) (inOrder : before.InOrder tells) :
    ((typePlan rootName shape []).leaves before).InOrder tells :=
  (Site.shape_provided rootName shape .type [] all).keeps inOrder nofun

/-- A request leaves a registry in order, whether it succeeds or fails. -/
theorem leaves_inOrder (told : ∀ declaration, request.Tells declaration → tells declaration)
    (inOrder : before.InOrder tells) : (request.leaves before).InOrder tells := by
  cases request with
  | emit rootName schema id =>
      rw [leaves_emit]
      exact plan_leaves_inOrder
        (fun site declaration reached found => told _ ⟨site, reached, found⟩) inOrder
  | generate rootName schema =>
      have all : Site.AllTold tells rootName ⟨schema.rootShape, .type⟩ :=
        fun site declaration reached found => told _ (.inl ⟨site, reached, found⟩)
      rcases generate_leaves rootName schema before with
        equal | ⟨name, between, fresh, named, leads, aliased⟩
      · rw [leaves, emission, equal]
        exact plan_leaves_inOrder all inOrder
      · have rootInOrder : ((rootPlan rootName schema).leaves before).InOrder tells :=
          plan_leaves_inOrder all inOrder
        rw [leads.leaves_eq] at rootInOrder
        rw [← typeRef_text] at aliased
        have aliasTold : tells (.alias name (typeRef rootName schema.rootShape)) :=
          told _ (.inr ⟨name, named, rfl⟩)
        exact rootInOrder.insert aliasTold
          ((Site.shape_provided rootName schema.rootShape .type [] all).provides leads) aliased

end

/-! ## Any number of requests -/

variable {mode : RegistryMode} {requests : List Request} {tells : Declaration → Prop}

theorem foldl_leaves_inOrder
    (told : ∀ request ∈ requests, ∀ declaration, request.Tells declaration → tells declaration)
    {before : Registry} (inOrder : before.InOrder tells) :
    (requests.foldl (fun registry request => request.leaves registry) before).InOrder tells := by
  induction requests generalizing before with
  | nil => exact inOrder
  | cons request rest inductionHypothesis =>
      rw [List.forall_mem_cons] at told
      exact inductionHypothesis told.2 (leaves_inOrder told.1 inOrder)

theorem foldl_leaves_keeps (requests : List Request) (before : Registry) :
    before.definitions <+:
      (requests.foldl (fun registry request => request.leaves registry) before).definitions := by
  induction requests generalizing before with
  | nil => exact List.prefix_rfl
  | cons request rest inductionHypothesis =>
      exact (leaves_keeps request before).trans (inductionHypothesis _)

/-- Whatever is asked for, the registry only grows at its end and lists no name twice.  Each
entry is a declaration that was asked for, and what the declaration uses is listed in front
of it, so that it neither uses its own name nor one that comes later.  If the names in it are
words, its text is read as what is written of it, and the words in the types there that the
language does not bring along are listed in front of it too. -/
theorem registryAfter_dependency_order (mode : RegistryMode) (requests more : List Request) :
    (registryAfter mode requests).definitions <+: (registryAfter mode (requests ++ more)).definitions ∧
    (registryAfter mode requests).names.Nodup ∧
    ∀ {front rest : List (String × String)} {name text : String},
      (registryAfter mode requests).definitions = front ++ (name, text) :: rest →
      ∃ declaration, (∃ request ∈ requests, request.Tells declaration) ∧
        declaration.name = name ∧ declaration.written.text = text ∧
        (∀ used ∈ declaration.uses,
          used ∈ front.map Prod.fst ∧ used ≠ name ∧ used ∉ rest.map Prod.fst) ∧
        ((∀ word ∈ declaration.names, IsWord word) →
          WrittenDeclaration.read? text = some declaration.written ∧
          ∀ word ∈ declaration.written.typeWords, word ∉ broughtAlong →
            word ∈ front.map Prod.fst ∧ word ≠ name ∧ word ∉ rest.map Prod.fst) := by
  have inOrder : (registryAfter mode requests).InOrder
      (fun declaration => ∃ request ∈ requests, request.Tells declaration) :=
    foldl_leaves_inOrder (fun request asked declaration told => ⟨request, asked, told⟩)
      (Registry.inOrder_empty _ mode)
  refine ⟨?_, inOrder.names_nodup, ?_⟩
  · rw [registryAfter, registryAfter, List.foldl_append]
    exact foldl_leaves_keeps more _
  · intro front rest name text split
    rcases inOrder.closed split with ⟨declaration, told, sameName, sameText, earlier⟩
    have nodup := inOrder.names_nodup
    rw [Registry.names, split, List.map_append, List.map_cons, List.nodup_append'] at nodup
    have apart := List.disjoint_cons_right.mp nodup.2.2
    have inFront : ∀ used ∈ declaration.uses,
        used ∈ front.map Prod.fst ∧ used ≠ name ∧ used ∉ rest.map Prod.fst := by
      intro used member
      have listed := earlier used member
      refine ⟨listed, fun same => apart.1 (same ▸ listed), fun later => ?_⟩
      exact apart.2 listed later
    rw [← declaration.text_written] at sameText
    refine ⟨declaration, told, sameName, sameText, inFront, fun named => ⟨?_, ?_⟩⟩
    · rw [← sameText]
      exact Declaration.read?_written named
    · intro word listed other
      exact inFront word ((Declaration.mem_typeWords named word listed).resolve_left other)

/-- A parcel beside bytes, which have no type. -/
def delivery : Schema :=
  ⟨#[⟨.leaf .boolean, true, false, none, none⟩,
      ⟨.object [("sealed", 0)], true, false, some "Parcel", none⟩,
      ⟨.leaf (.buffer .unbounded), true, false, none, none⟩,
      ⟨.tuple [1, 2], true, false, none, none⟩],
    3, by decide, by decide⟩

/-- The delivery is refused after its parcel was registered.  The declarations of the events
come after that, and their enum after the structs of its variants. -/
theorem registryAfter_dependency_order_delivery :
    let requests : List Request := [.emit none delivery 3, .generate (some "Signal") Schema.events]
    let registry := registryAfter .strict requests
    ((Nominal.emit none (delivery.shape 3)).run (.empty .strict)).1 =
        .error (.noNominalForm "buffer" [.position 1]) ∧
      registry.names = ["Parcel", "Start", "Stop", "Signal"] ∧
      ∃ declaration : Declaration, (∃ request ∈ requests, request.Tells declaration) ∧
        declaration.name = "Signal" ∧ registry.get? "Signal" = some declaration.written.text ∧
        ∀ used ∈ declaration.uses, used ∈ ["Parcel", "Start", "Stop"] := by
  intro requests registry
  have split : registry.definitions = registry.definitions.take 3 ++
      ("Signal", ((registry.definitions[3]?).map Prod.snd).getD "") :: [] := by
    decide +kernel
  have front : (registry.definitions.take 3).map Prod.fst = ["Parcel", "Start", "Stop"] := by
    decide +kernel
  have registered : registry.get? "Signal" =
      some (((registry.definitions[3]?).map Prod.snd).getD "") := by decide +kernel
  rcases (registryAfter_dependency_order .strict requests []).2.2 split with
    ⟨declaration, told, named, text, earlier, _⟩
  rw [front] at earlier
  rw [← text] at registered
  exact ⟨by decide +kernel, by decide +kernel, declaration, told, named, registered,
    fun used member => (earlier used member).1⟩

/-- An object that is called as the type of its field is. -/
def letter : Schema :=
  ⟨#[⟨.leaf (.string .unbounded), true, false, none, none⟩,
      ⟨.object [("text", 0)], true, false, some "String", none⟩],
    1, by decide, by decide⟩

/-- The declaration of the letter is its own field's type. -/
theorem letter_refers_to_itself :
    let registry := registryAfter .strict [.generate none letter]
    registry.names = ["String"] ∧
      ∃ text, registry.get? "String" = some text ∧
        ∃ written, WrittenDeclaration.read? text = some written ∧
          written.name = "String" ∧ written.typeWords = ["String"] := by
  intro registry
  refine ⟨by decide +kernel, _, Option.eq_some_iff_get_eq.mpr ⟨by decide +kernel, rfl⟩,
    .struct "String" [⟨none, false, "text", "String"⟩], ?_, rfl, ?_⟩
  · decide +kernel
  · decide +kernel

end Request

end Nominal
end Conformance
