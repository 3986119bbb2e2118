import CarChain.Membership.OwnView

/-! The views of all members fit together.

Every member sorts its own copy of the children, and all copies sort to one chain. What each
member stores is then a function of its place in that chain.
-/

namespace CarChain

open CRuntime CStandard

variable {Conn : Type} {members : Membership} {after : CString → ZkTopology Conn}

/-- The stored roles: a member alone is single, and otherwise one is the head, one the tail
and all others are in the middle.
-/
structure RolesAgree (members : Membership) (after : CString → ZkTopology Conn) : Prop where
  alone : members.names.length = 1 → ∀ name ∈ members.names, (after name).role = .single
  oneHead : 2 ≤ members.names.length → ∃! name, name ∈ members.names ∧ (after name).role = .head
  oneTail : 2 ≤ members.names.length → ∃! name, name ∈ members.names ∧ (after name).role = .tail
  middle
    : 2 ≤ members.names.length
      → members.names.countP (fun name => (after name).role = .middle)
        = members.names.length - 2

/-- The stored views are those of one chain. -/
structure ViewsAgree (members : Membership) (zk : CString → ZkSession Conn)
    (after : CString → ZkTopology Conn) : Prop where
  foundOnce
    : ∀ name ∈ members.names, ∀ children,
        (zk name).getChildren = some children
        → ∀ index : Nat,
            (qsort pathcmp (children.map nodePath))[index]? = some (nodePath name)
            ↔ (after name).nodeIndex = index
  placed
    : ∀ name ∈ members.names, ∃ index < members.names.length, (after name).nodeIndex = index
  onePerIndex
    : ∀ index < members.names.length,
        ∃! name, name ∈ members.names ∧ (after name).nodeIndex = index
  neighbours
    : ∀ left ∈ members.names, ∀ right ∈ members.names,
        (after left).successorAddress = some (members.address right)
        ↔ (after right).predecessorAddress = some (members.address left)
  oneFirst : ∃! name, name ∈ members.names ∧ (after name).predecessorAddress = none
  oneLast : ∃! name, name ∈ members.names ∧ (after name).successorAddress = none
  walk
    : ∃ first route,
        (first :: route).Perm members.names
        ∧ List.IsChain
          (fun left right => (after left).successorAddress = some (members.address right))
          (first :: route)
        ∧ (after first).predecessorAddress = none
        ∧ (after ((first :: route).getLast (by simp))).successorAddress = none
  connected
    : ∀ name ∈ members.names,
        (after name).successor.isSome = (after name).successorAddress.isSome
  roles : RolesAgree members after

theorem Membership.chain_length (members : Membership)
    : members.chain.length = members.names.length :=
  members.chain_perm.length_eq

theorem Membership.length_pos (members : Membership) : 0 < members.chain.length := by
  rw [members.chain_length]
  exact List.length_pos_of_ne_nil members.nonempty

-----------------------------------------------------------------------------------------
-- A view read at an index of the chain
-----------------------------------------------------------------------------------------

/-- What is stored by the member at an index of the chain. -/
structure ViewAt (members : Membership) (index : Nat) (topology : ZkTopology Conn) : Prop where
  nodeIndex : topology.nodeIndex = index
  role : topology.role = newRole members.chain.length index
  successorAddress
    : topology.successorAddress = (members.chain[index + 1]?).map members.address
  predecessorAddress
    : topology.predecessorAddress
      = if index = 0 then none else (members.chain[index - 1]?).map members.address

/-- Every member has an index in the chain, at which its view is read. -/
theorem OwnView.at {name : CString} {topology : ZkTopology Conn}
    (own : OwnView members name topology) (member : name ∈ members.names)
    : ∃ index, ∃ within : index < members.chain.length,
        members.chain[index] = name ∧ ViewAt members index topology := by
  have inChain := members.mem_chain.mpr member
  exact ⟨
    members.chain.idxOf name, List.idxOf_lt_length_of_mem inChain, List.getElem_idxOf _,
    own.nodeIndex, own.role, own.successorAddress, own.predecessorAddress
  ⟩

theorem predecessor_none_iff {index : Nat} {topology : ZkTopology Conn}
    (within : index < members.chain.length) (view : ViewAt members index topology)
    : topology.predecessorAddress = none ↔ index = 0 := by
  rw [view.predecessorAddress]
  split
  · simpa
  · rename_i positive
    have before : index - 1 < members.chain.length := by omega
    simp [before, positive]

theorem successor_none_iff {index : Nat} {topology : ZkTopology Conn}
    (within : index < members.chain.length) (view : ViewAt members index topology)
    : topology.successorAddress = none ↔ index = members.chain.length - 1 := by
  rw [view.successorAddress]
  simp
  omega

/-- Different places of the chain hold different members. -/
theorem Membership.getElem_inj {left right : Nat} (hl : left < members.chain.length)
    (hr : right < members.chain.length)
    : members.chain[left] = members.chain[right] ↔ left = right :=
  List.Nodup.getElem_inj_iff members.chain_nodup

/-- Different places of the chain have different addresses. -/
theorem Membership.address_getElem_inj {left right : Nat} (hl : left < members.chain.length)
    (hr : right < members.chain.length)
    : members.address members.chain[left] = members.address members.chain[right]
      ↔ left = right := by
  constructor
  · intro same
    refine (members.getElem_inj hl hr).mp (members.separate _ ?_ _ ?_ same)
    · exact members.mem_chain.mp (List.getElem_mem hl)
    · exact members.mem_chain.mp (List.getElem_mem hr)
  · intro h
    subst h
    rfl

/-- A member names another one as successor exactly when that one's index is the next. -/
theorem successor_iff {left right : Nat} {topology : ZkTopology Conn}
    (withinRight : right < members.chain.length) (view : ViewAt members left topology)
    : topology.successorAddress = some (members.address members.chain[right])
      ↔ right = left + 1 := by
  rw [view.successorAddress]
  by_cases next : left + 1 < members.chain.length
  · simp [next, members.address_getElem_inj next withinRight]
    omega
  · simp [next]
    omega

/-- A member names another one as predecessor exactly when its own index is the next. -/
theorem predecessor_iff {left right : Nat} {topology : ZkTopology Conn}
    (withinLeft : left < members.chain.length) (withinRight : right < members.chain.length)
    (view : ViewAt members right topology)
    : topology.predecessorAddress = some (members.address members.chain[left])
      ↔ right = left + 1 := by
  rw [view.predecessorAddress]
  by_cases zero : right = 0
  · simp [zero]
  · have before : right - 1 < members.chain.length := by omega
    simp [zero, before, members.address_getElem_inj before withinLeft]
    omega

-----------------------------------------------------------------------------------------
-- All members
-----------------------------------------------------------------------------------------

/-- Of several members exactly those strictly between the ends are in the middle. -/
theorem newRole_eq_middle {count index : Int} (several : 2 ≤ count)
    : newRole count index = .middle ↔ index ≠ 0 ∧ index ≠ count - 1 := by
  rw [newRole, if_neg (by omega)]
  split
  · simp_all
  · split <;> simp_all

/-- All indices but the first and the last one are in the middle. -/
theorem countP_newRole_middle (between : Nat)
    : (List.range (between + 2)).countP
        (fun index : Nat => newRole (between + 2 : Nat) index = .middle)
      = between := by
  simp only [newRole_eq_middle (show (2 : Int) ≤ (between + 2 : Nat) by omega)]
  rw [List.range_succ, List.range_succ_eq_map, List.countP_append, List.countP_cons,
    List.countP_map]
  have inner
      : (List.range between).countP
          ((fun index : Nat =>
            decide ((index : Int) ≠ 0 ∧ (index : Int) ≠ (between + 2 : Nat) - 1)) ∘ Nat.succ)
        = (List.range between).length := by
    refine List.countP_eq_length.mpr (fun index member => ?_)
    have below := List.mem_range.mp member
    simp
    omega
  rw [inner]
  simp
  omega

section

variable (views : ∀ name ∈ members.names, OwnView members name (after name))

include views

/-- The member at an index of the chain stores the view of that index. -/
theorem viewAt_getElem {index : Nat} (within : index < members.chain.length)
    : ViewAt members index (after members.chain[index]) := by
  have member := members.mem_chain.mp (List.getElem_mem within)
  obtain ⟨own, bound, same, view⟩ := (views _ member).at member
  have equal : own = index := (members.getElem_inj bound within).mp same
  exact equal ▸ view

/-- A property of views that singles out one index singles out one member. -/
theorem existsUnique_of_index (holds : ZkTopology Conn → Prop) {index : Nat}
    (within : index < members.chain.length)
    (only
      : ∀ other < members.chain.length, ∀ topology : ZkTopology Conn,
          ViewAt members other topology → (holds topology ↔ other = index))
    : ∃! name, name ∈ members.names ∧ holds (after name) := by
  refine ⟨members.chain[index], ⟨members.mem_chain.mp (List.getElem_mem within), ?_⟩, ?_⟩
  · exact (only index within _ (viewAt_getElem views within)).mpr rfl
  · intro name h
    obtain ⟨member, holds⟩ := h
    obtain ⟨own, bound, same, view⟩ := (views name member).at member
    have equal := (only own bound _ view).mp holds
    subst equal
    exact same.symm

/-- Along the chain each member names the next one, by adjacent indices. -/
theorem chain_isChain
    : List.IsChain
        (fun left right => (after left).successorAddress = some (members.address right))
        members.chain := by
  refine List.isChain_iff_getElem.mpr (fun index next => ?_)
  exact (successor_iff next (viewAt_getElem views (Nat.lt_of_succ_lt next))).mpr rfl

/-- The ends of the chain are head and tail and the members between are in the middle, by
counting the roles along the chain.
-/
theorem roles_agree : RolesAgree members after := by
  have length := members.chain_length
  have roleAt {index : Nat} {topology : ZkTopology Conn} (view : ViewAt members index topology)
      (several : 2 ≤ members.chain.length)
      : (topology.role = .head ↔ index = 0)
        ∧ (topology.role = .tail ↔ index = members.chain.length - 1 ∧ index ≠ 0) := by
    rw [view.role, newRole, if_neg (by omega)]
    split
    · simp_all
    · split <;> simp <;> omega
  constructor
  · intro single name member
    obtain ⟨index, within, -, view⟩ := (views name member).at member
    rw [view.role, newRole, if_pos (by omega)]
  · intro several
    refine existsUnique_of_index views (fun topology => topology.role = .head)
      members.length_pos (fun other _ topology view => ?_)
    exact (roleAt view (by omega)).1
  · intro several
    have end_ : members.chain.length - 1 < members.chain.length := by omega
    refine existsUnique_of_index views (fun topology => topology.role = .tail) end_
      (fun other _ topology view => ?_)
    rw [(roleAt view (by omega)).2]
    omega
  · intro several
    obtain ⟨between, count⟩ := Nat.exists_eq_add_of_le' several
    rw [← members.chain_perm.countP_eq, count, Nat.add_sub_cancel,
      ← countP_newRole_middle between]
    have roles : members.chain.map (fun name => (after name).role)
        = (List.range (between + 2)).map
            (fun index : Nat => newRole (between + 2 : Nat) index) := by
      refine List.ext_getElem (by simp; omega) (fun index hl hr => ?_)
      have within : index < members.chain.length := by simpa using hl
      have view := viewAt_getElem views within
      simp [view.role, length, count]
    have counted := congrArg (List.countP (fun role => role = .middle)) roles
    simpa [List.countP_map, Function.comp_def] using counted

/-- In its own order of the children, a member is at the index that it stores. -/
theorem getElem_nodePath_iff {zk : CString → ZkSession Conn}
    (serves : ∀ name ∈ members.names, (zk name).Serves members) {name : CString}
    (member : name ∈ members.names) {children : List CString}
    (read : (zk name).getChildren = some children) (index : Nat)
    : (qsort pathcmp (children.map nodePath))[index]? = some (nodePath name)
      ↔ (after name).nodeIndex = index := by
  obtain ⟨listed, returned, rearranged⟩ := (serves name member).listed
  obtain rfl := Option.some.inj (read.symm.trans returned)
  obtain ⟨own, within, same, view⟩ := (views name member).at member
  rw [qsort_nodePath, chainOf_eq_of_perm rearranged, view.nodeIndex]
  have paths : (chainOf members.names) = members.chain := rfl
  rw [paths, List.getElem?_map, Option.map_eq_some_iff]
  constructor
  · intro h
    obtain ⟨other, found, path⟩ := h
    obtain ⟨bound, found⟩ := List.getElem?_eq_some_iff.mp found
    have equal : members.chain[index] = members.chain[own] := by
      rw [found, same]
      exact nodePath_inj.mp path
    rw [(members.getElem_inj bound within).mp equal]
  · intro equal
    obtain rfl : own = index := by omega
    exact ⟨name, by rw [List.getElem?_eq_getElem within, same], rfl⟩

end

/-- The views that updates of all members store agree. -/
theorem viewsAgree {zk : CString → ZkSession Conn}
    (views : ∀ name ∈ members.names, OwnView members name (after name))
    (serves : ∀ name ∈ members.names, (zk name).Serves members)
    : ViewsAgree members zk after := by
  have length := members.chain_length
  refine {
    foundOnce := ?_
    placed := ?_
    onePerIndex := ?_
    neighbours := ?_
    oneFirst := ?_
    oneLast := ?_
    walk := ?_
    connected := ?_
    roles := roles_agree views
  }
  · intro name member children read index
    exact getElem_nodePath_iff views serves member read index
  · intro name member
    obtain ⟨own, within, -, view⟩ := (views name member).at member
    exact ⟨own, length ▸ within, view.nodeIndex⟩
  · intro index within
    refine existsUnique_of_index views (fun topology => topology.nodeIndex = index)
      (length.symm ▸ within) (fun other _ topology view => ?_)
    rw [view.nodeIndex]
    omega
  · intro left leftMember right rightMember
    obtain ⟨i, withinLeft, rfl, viewLeft⟩ := (views left leftMember).at leftMember
    obtain ⟨j, withinRight, rfl, viewRight⟩ := (views right rightMember).at rightMember
    rw [successor_iff withinRight viewLeft, predecessor_iff withinLeft withinRight viewRight]
  · exact existsUnique_of_index views (fun topology => topology.predecessorAddress = none)
      members.length_pos
      (fun other bound topology view => predecessor_none_iff bound view)
  · exact existsUnique_of_index views (fun topology => topology.successorAddress = none)
      (Nat.sub_lt members.length_pos Nat.zero_lt_one)
      (fun other bound topology view => successor_none_iff bound view)
  · obtain ⟨first, route, chain⟩ := List.exists_cons_of_length_pos members.length_pos
    refine ⟨first, route, ?_, ?_, ?_, ?_⟩
    · exact chain ▸ members.chain_perm
    · exact chain ▸ chain_isChain views
    · have view := viewAt_getElem views members.length_pos
      simpa [chain] using (predecessor_none_iff members.length_pos view).mpr rfl
    · have end_ : members.chain.length - 1 < members.chain.length :=
        Nat.sub_lt members.length_pos Nat.zero_lt_one
      have view := viewAt_getElem views end_
      have none := (successor_none_iff end_ view).mpr rfl
      rw [← List.getLast_eq_getElem (by simp [chain])] at none
      simpa [chain] using none
  · exact fun name member => (views name member).connected

/-- When every member of a set updates and all its reads and connections succeed, all updates
return 0 and the stored views agree, whatever order of the children each member was given and
whatever it had stored before.
-/
theorem zkUpdateChainInternal_views_agree (members : Membership)
    (zk : CString → ZkSession Conn) (state : CString → ZkState Conn)
    (script : CString → List Bool)
    (registered
      : ∀ name ∈ members.names, (state name).nodePath = some (nodePath name))
    (serves : ∀ name ∈ members.names, (zk name).Serves members)
    (granted : ∀ name ∈ members.names, grants (members.names.length + 3) (script name) = true)
    : ∃ after : CString → ZkTopology Conn,
        (∀ name ∈ members.names, ∃ rest,
          (zkUpdateChainInternal (zk name) (state name)).run (script name)
            = .ok ((0, (state name).swap (after name)), rest))
        ∧ ViewsAgree members zk after := by
  have updated : ∀ name, ∃ topology, name ∈ members.names →
      (∃ rest,
        (zkUpdateChainInternal (zk name) (state name)).run (script name)
          = .ok ((0, (state name).swap topology), rest))
      ∧ OwnView members name topology := by
    intro name
    by_cases member : name ∈ members.names
    · obtain ⟨topology, rest, ran, own⟩ :=
        (serves name member).run_update member (registered name member) (granted name member)
      exact ⟨topology, fun _ => ⟨⟨rest, ran⟩, own⟩⟩
    · exact ⟨(state name).toZkTopology, fun listed => absurd listed member⟩
  obtain ⟨after, stored⟩ := Classical.skolem.mp updated
  exact ⟨
    after,
    fun name member => (stored name member).1,
    viewsAgree (fun name member => (stored name member).2) serves
  ⟩

/-- Two servers on the local host. -/
def twoMembers : Membership where
  names := [.literal "node0000000001", .literal "node0000000000"]
  nonempty := by decide
  distinct := by decide
  address name :=
    if name = .literal "node0000000000" then .literal "127.0.0.1:7000"
    else .literal "127.0.0.1:7001"
  fits := by decide
  separate := by decide

/-- A session in which every call succeeds at once. -/
def twoMembersSession : ZkSession CString where
  wgetChildren := true
  getChildren := some twoMembers.names
  get path :=
    if path = nodePath (.literal "node0000000000") then some (.literal "127.0.0.1:7000")
    else some (.literal "127.0.0.1:7001")
  connect address _ := some address

theorem zkUpdateChainInternal_views_agree_two
    : ∃ after : CString → ZkTopology CString,
        ViewsAgree twoMembers (fun _ => twoMembersSession) after := by
  obtain ⟨after, -, agree⟩ := zkUpdateChainInternal_views_agree twoMembers
    (fun _ => twoMembersSession)
    (fun name => ⟨⟨none, none, none, .single, -1, 0⟩, some (nodePath name)⟩)
    (fun _ => [])
    (fun _ _ => rfl)
    (fun _ _ => ⟨rfl, ⟨_, rfl, .refl _⟩, by decide, fun _ _ => ⟨0, by decide, rfl⟩⟩)
    (fun _ _ => grants_nil _)
  exact ⟨after, agree⟩

end CarChain
