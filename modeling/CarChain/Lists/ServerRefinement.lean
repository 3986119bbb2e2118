import CarChain.Lists.Refinement
import CarChain.Model.HandlerSpecs
import CarChain.Model.NodeServer
import CarChain.Model.Server

/-! A server whose list is nodes in memory, and one whose list is a sequence of cars. -/

namespace CarChain

open CRuntime CStandard LinkedCells CArray

namespace NodeList

/-- The nodes represent the sequence of cars, which stays below `INT_MAX` cars with this many
more.
-/
def StandsFor (room : Nat) (list : NodeList) (model : ListT) : Prop :=
  ∃ chain, list.Represents chain ∧ model.cars = items chain ∧ chain.length + room < intMax

variable {room : Nat} {list : NodeList} {model : ListT}

theorem StandsFor.weaken (h : list.StandsFor (room + 1) model) : list.StandsFor room model := by
  obtain ⟨chain, represents, same, below⟩ := h
  exact ⟨chain, represents, same, by omega⟩

/-- A call that returns the same code and a related list, without allocating. -/
theorem lockstep_update {action : Except Fault (NodeList × Int32)} {result : ListT × Int32}
    (updates
      : ∃ after code model',
          action = .ok (after, code) ∧ result = (model', code) ∧ after.StandsFor room model')
    : Lockstep (fun l h => l.1.StandsFor room h.1 ∧ l.2 = h.2) (liftM action : Mem _)
        (pure result) := by
  obtain ⟨after, code, model', rfl, rfl, stands⟩ := updates
  exact .pure ⟨stands, rfl⟩

/-- Every array that is returned ends with its only NULL. -/
def ReturnsTerminated {α : Type} (builder : Mem (Option (List (Option α)))) : Prop :=
  Returns builder (fun array => ∀ cells ∈ array, ∃ items, cells = nullTerminated items)

theorem returnsTerminated_getByYear (model : ListT) (ano : Int32)
    : ReturnsTerminated (CarChain.listGetByYear model ano) := by
  refine returns_bind_any (fun granted => ?_)
  cases granted with
  | false => exact returns_pure (fun cells here => by cases here)
  | true => exact returns_pure (fun cells here => ⟨_, (Option.some.inj here).symm⟩)

theorem returnsTerminated_getAll (model : ListT)
    : ReturnsTerminated (CarChain.listGetAll model) := by
  refine returns_bind_any (fun granted => ?_)
  cases granted with
  | false => exact returns_pure (fun cells here => by cases here)
  | true => exact returns_pure (fun cells here => ⟨_, (Option.some.inj here).symm⟩)

theorem returnsTerminated_getModelList (model : ListT)
    : ReturnsTerminated (CarChain.listGetModelList model) := by
  refine returns_bind_any (fun granted => ?_)
  cases granted with
  | false => exact returns_pure (fun cells here => by cases here)
  | true =>
      refine returns_bind_any (fun made => ?_)
      cases made with
      | none => exact returns_pure (fun cells here => by cases here)
      | some models =>
          refine returns_bind_any (fun _ => ?_)
          exact returns_pure (fun cells here => ⟨_, (Option.some.inj here).symm⟩)

/-- An array that is written as the level above builds it is read as that array. -/
theorem lockstep_array {α : Type} {low : Mem (Option (Slots α))}
    {high : Mem (Option (List (Option α)))} (refines : low = (do return (← high).map written))
    (terminates : ReturnsTerminated high)
    : Lockstep Eq (do readArray (← low)) high := by
  intro script
  rw [refines]
  cases ran : high.run script with
  | error fault =>
      rw [StateT.run_bind, StateT.run_bind, ran]
      rfl
  | ok result =>
      obtain ⟨array, rest⟩ := result
      rw [run_bind_of_ok (run_bind_of_ok ran)]
      cases array with
      | none => exact ⟨rfl, rfl⟩
      | some cells =>
          obtain ⟨items, rfl⟩ := terminates script _ rest ran cells rfl
          have read : readArray (some (written (nullTerminated items)))
              = .ok (some (nullTerminated items)) := by
            rw [readArray, show written (nullTerminated items) = terminated items from rfl,
              cellsToNull_terminated]
            rfl
          rw [Option.map_some, read]
          exact ⟨rfl, rfl⟩

/-- Removing and ordering add no node. -/
theorem length_le_of_meaning {before later : List (Addr × DataT)} {code : Int32} {call : ListCall}
    (meaning : call.Meaning before later code) (adds : ∀ car node, call ≠ .add car node)
    : later.length ≤ before.length := by
  cases call with
  | add car node => exact absurd rfl (adds car node)
  | remove modelo =>
      rcases meaning with ⟨front, node, rest, rfl, -, -, rfl, -⟩ | ⟨-, rfl, -⟩
      · simp
      · exact Nat.le_refl _
  | order => exact Nat.le_of_eq (by rw [← length_addrs, meaning.1, length_addrs])

/-- A call that adds nothing does the same to the nodes and to the sequence. -/
theorem StandsFor.perform (h : list.StandsFor room model) {call : ListCall}
    (permitted : call.Permitted list) (adds : ∀ car node, call ≠ .add car node)
    : ∃ after code model',
        list.perform call = .ok (after, code)
        ∧ (model.perform call).run [] = .ok ((model', code), [])
        ∧ after.StandsFor room model' := by
  obtain ⟨chain, represents, same, below⟩ := h
  obtain ⟨after, code, later, ran, represents', meaning⟩ := perform_refines represents permitted
  obtain ⟨model', performed, same'⟩ := ListT.perform_of_meaning meaning same
  have fewer := length_le_of_meaning meaning adds
  exact ⟨after, code, model', ran, performed, later, represents', same', by omega⟩

/-- What each function does to the nodes is what it does to the sequence of their cars. -/
theorem interface_simulates (allocator : NodeAllocator)
    : (interface allocator).Simulates ListInterface.sequence StandsFor where
  weaken := StandsFor.weaken
  listAdd := by
    rintro room list model car ⟨chain, represents, same, below⟩
    refine Lockstep.bind_same malloc (fun granted => ?_)
    cases granted with
    | false => exact .pure ⟨⟨chain, represents, same, by omega⟩, rfl⟩
    | true =>
        have permitted : (ListCall.add car (allocator.place list.nodes)).Permitted list :=
          ⟨allocator.fresh list.nodes, by rw [represents.count_eq]; omega⟩
        obtain ⟨after, added, represents'⟩ := perform_add represents permitted
        refine lockstep_update ⟨after, 0, model.appended car, added, rfl, _, represents', ?_, ?_⟩
        · simp [ListT.appended, same]
        · rw [List.length_append, List.length_singleton]
          omega
  listRemoveByModel := by
    intro room list model modelo stands
    obtain ⟨after, code, model', ran, performed, stands'⟩ :=
      @StandsFor.perform _ _ _ stands (.remove modelo) trivial (by simp)
    have result := (Prod.mk.inj (Except.ok.inj performed)).1
    exact lockstep_update ⟨after, code, model', ran, result, stands'⟩
  listGetByMarca := by
    rintro room list model marca ⟨chain, represents, same, below⟩
    have found : list.listGetByMarca marca = .ok (CarChain.listGetByMarca model marca) := by
      rw [listGetByMarca, CarChain.listGetByMarca, same]
      exact represents.linked.findFrom represents.linked.length_le
    show Lockstep Eq (liftM (list.listGetByMarca marca) : Mem _) (pure _)
    rw [found]
    exact .pure rfl
  listGetByYear := by
    rintro room list model ano ⟨chain, represents, same, below⟩
    exact lockstep_array (listGetByYear_refines represents.linked (by omega) same ano)
      (returnsTerminated_getByYear model ano)
  listOrderByYear := by
    intro room list model stands
    obtain ⟨after, code, model', ran, performed, stands'⟩ :=
      @StandsFor.perform _ _ _ stands .order trivial (by simp)
    rw [ListT.perform, listOrderByYear_eq] at performed
    cases performed
    show Lockstep _ (liftM list.listOrderByYear : Mem _) (CarChain.listOrderByYear model)
    rw [listOrderByYear_eq]
    exact lockstep_update ⟨after, _, _, ran, rfl, stands'⟩
  listSize := by
    rintro room list model ⟨chain, represents, same, below⟩
    refine Int32.toInt_inj.mp ?_
    have within : model.cars.length ≤ intMax := by
      rw [same, length_items]
      omega
    show list.listSize.toInt = model.size.toInt
    rw [represents.size, ListT.toInt_size within, same, length_items]
  listGetModelList := by
    rintro room list model ⟨chain, represents, same, below⟩
    exact lockstep_array (listGetModelList_refines represents.linked represents.size same)
      (returnsTerminated_getModelList model)
  listGetAll := by
    rintro room list model ⟨chain, represents, same, below⟩
    exact lockstep_array (listGetAll_refines represents.linked represents.size (by omega) same)
      (returnsTerminated_getAll model)

-----------------------------------------------------------------------------------------
-- The life of a server
-----------------------------------------------------------------------------------------

/-- There is room for one more car. -/
def Extendable (model : ListT) : Prop := model.cars.length + 1 < intMax

theorem listCreate_standsFor : NodeList.listCreate.StandsFor 0 CarChain.listCreate :=
  ⟨[], listCreate_represents, rfl, by decide⟩

theorem StandsFor.extend (h : list.StandsFor 0 model) (extendable : Extendable model)
    : list.StandsFor 1 model := by
  obtain ⟨chain, represents, same, -⟩ := h
  refine ⟨chain, represents, same, ?_⟩
  rwa [Extendable, same, length_items] at extendable

/-- However memory runs out and whatever the chain answers, a server that keeps its list in nodes
handles every sequence of requests as one that keeps a sequence of cars, as long as no request
finds a list that has reached the limit of its counter: it faults where that one does and nowhere
else, gives the same codes and replies, and its nodes then hold the same cars.
-/
theorem invokeAll_refines {Conn : Type} (allocator : NodeAllocator)
    {requests : List (MessageT × ForwardEnv Conn)} {script : List Bool}
    (short : ListInterface.sequence.EachBefore Extendable requests CarChain.listCreate script)
    : SameOutcome (fun low high => low.1 = high.1 ∧ low.2.StandsFor 0 high.2)
        (((interface allocator).invokeAll requests NodeList.listCreate).run script)
        ((ListInterface.sequence.invokeAll requests CarChain.listCreate).run script) :=
  (interface_simulates allocator).invokeAll StandsFor.extend listCreate_standsFor short

/-- What stands for a sequence of cars is freed node by node. -/
theorem StandsFor.listDestroy (h : list.StandsFor room model)
    : ∃ nodes, list.listDestroy = .ok (nodes, 0) ∧ ∀ addr, addr ∉ nodes := by
  obtain ⟨chain, represents, -, -⟩ := h
  obtain ⟨nodes, freed, kept⟩ := represents.linked.freeAll represents.linked.length_le
  refine ⟨nodes, ?_, fun addr remains => ?_⟩
  · rw [NodeList.listDestroy, freed]
    rfl
  · obtain ⟨allocated, apart⟩ := (kept addr).mp remains
    exact apart ((represents.owned addr).mp allocated)

/-- After any requests `list_destroy` returns 0: it frees nodes that are allocated only, none of
them twice, and leaves none behind.
-/
theorem invokeAll_then_listDestroy {Conn : Type} {allocator : NodeAllocator}
    {requests : List (MessageT × ForwardEnv Conn)} {script rest : List Bool}
    {replies : List (Int32 × MessageT)} {list : NodeList}
    (short : ListInterface.sequence.EachBefore Extendable requests CarChain.listCreate script)
    (ran
      : ((interface allocator).invokeAll requests NodeList.listCreate).run script
        = .ok ((replies, list), rest))
    : ∃ nodes, list.listDestroy = .ok (nodes, 0) ∧ ∀ addr, addr ∉ nodes := by
  have both :=
    (interface_simulates allocator).invokeAll StandsFor.extend listCreate_standsFor short
  rw [ran] at both
  rcases sameOutcome_cases both with
    ⟨fault, returned, -⟩ | ⟨low, high, left, returned, -, -, stands⟩
  · cases returned
  · cases returned
    exact stands.listDestroy

/-- A request adds at most one car. -/
theorem sequence_simulates
    : ListInterface.sequence.Simulates ListInterface.sequence
        (fun room left right => left = right ∧ left.cars.length + room < intMax) where
  weaken := fun ⟨same, below⟩ => ⟨same, by omega⟩
  listAdd := by
    rintro room list _ car ⟨rfl, below⟩ script
    show SameOutcome _ ((CarChain.listAdd list car).run script)
      ((CarChain.listAdd list car).run script)
    rw [CarChain.run_listAdd]
    refine ⟨⟨⟨rfl, ?_⟩, rfl⟩, rfl⟩
    split
    · show (list.cars ++ [car]).length + room < intMax
      rw [List.length_append, List.length_singleton]
      omega
    · show list.cars.length + room < intMax
      omega
  listRemoveByModel := by
    rintro room list _ modelo ⟨rfl, below⟩
    refine .pure ⟨⟨rfl, ?_⟩, rfl⟩
    by_cases found : ∃ car ∈ list.cars, car.modelo = modelo
    · have shorter := (listRemoveByModel_found found).2
      omega
    · rwa [listRemoveByModel_missing found]
  listGetByMarca := by
    rintro room list _ marca ⟨rfl, -⟩
    exact .refl _
  listGetByYear := by
    rintro room list _ ano ⟨rfl, -⟩
    exact .refl _
  listOrderByYear := by
    rintro room list _ ⟨rfl, below⟩
    obtain ⟨ordered, returned, sorts⟩ := listOrderByYear_stableSort list
    show Lockstep _ (CarChain.listOrderByYear list) (CarChain.listOrderByYear list)
    rw [returned]
    exact .pure ⟨⟨rfl, by rwa [sorts.perm.length_eq]⟩, rfl⟩
  listSize := fun ⟨same, _⟩ => congrArg _ same
  listGetModelList := by
    rintro room list _ ⟨rfl, -⟩
    exact .refl _
  listGetAll := by
    rintro room list _ ⟨rfl, -⟩
    exact .refl _

/-- Fewer requests than the counter's limit find room each, by induction on them. -/
theorem eachBefore_of_few {Conn : Type} {requests : List (MessageT × ForwardEnv Conn)}
    {script : List Bool} {model : ListT} (few : model.cars.length + requests.length < intMax)
    : ListInterface.sequence.EachBefore Extendable requests model script := by
  induction requests generalizing model script with
  | nil => trivial
  | cons request rest ih =>
      obtain ⟨msg, env⟩ := request
      rw [List.length_cons] at few
      have below : model.cars.length + (rest.length + 1) < intMax := few
      refine ⟨show model.cars.length + 1 < intMax by omega, ?_⟩
      rcases sameOutcome_cases (sequence_simulates.invoke msg env ⟨rfl, below⟩ script) with
        ⟨fault, ran, -⟩ | ⟨⟨code, reply, after⟩, _, left, ran, -, -, -, -, room⟩
      · rw [ran]
        trivial
      · rw [ran]
        exact ih room

/-- An addition, one that finds no memory for its node, and a request for the ordered list. -/
def threeRequests : List (MessageT × ForwardEnv Unit) :=
  [(addRequest (clio 2020), .alone), (addRequest (clio 2010), .alone),
    (getlistbyearRequest, .alone)]

theorem invokeAll_refines_three
    : SameOutcome (fun low high => low.1 = high.1 ∧ low.2.StandsFor 0 high.2)
        (((interface .bump).invokeAll threeRequests NodeList.listCreate).run
          [true, true, true, true, true, false])
        ((ListInterface.sequence.invokeAll threeRequests CarChain.listCreate).run
          [true, true, true, true, true, false]) :=
  invokeAll_refines .bump (eachBefore_of_few (by decide))

theorem invokeAll_then_listDestroy_three
    : ∃ (list : NodeList) (nodes : Cells DataT),
        list.size = 1 ∧ list.listDestroy = .ok (nodes, 0) ∧ ∀ addr, addr ∉ nodes := by
  have ran
      : ∃ replies list rest,
          ((interface .bump).invokeAll threeRequests NodeList.listCreate).run
              [true, true, true, true, true, false]
            = .ok ((replies, list), rest)
          ∧ list.size = 1 :=
    ⟨_, _, _, rfl, rfl⟩
  obtain ⟨replies, list, rest, ran, one⟩ := ran
  obtain ⟨nodes, freed, none_⟩ :=
    invokeAll_then_listDestroy (eachBefore_of_few (by decide)) ran
  exact ⟨list, nodes, one, freed, none_⟩

end NodeList

end CarChain
