import Mathlib.Data.List.Basic
import Mathlib.Data.List.Nodup

/-! Linearization of concurrent requests to one sequential object.

Requests are numbered in the order in which they are sent. A history lists when each was sent
and what it was replied. A request takes effect at one moment, when it is committed; the
order of the commits explains all replies and respects real time.
-/

namespace Linearization

/-- The numbered request has been sent, or replied to. -/
inductive Event (Rep : Type) where
  | sent (id : Nat)
  | replied (id : Nat) (reply : Rep)
  deriving DecidableEq

variable {S Req Rep : Type}

/-- The object after it served the numbered requests in this order. -/
def stateAfter (serve : S → Req → S × Option Rep) (initial : S) (requests : List Req)
    (order : List Nat)
    : S :=
  order.foldl
    (fun state id =>
      match requests[id]? with
      | some request => (serve state request).1
      | none => state)
    initial

/-- In this order the numbered request is replied so by the object. -/
def Answers (serve : S → Req → S × Option Rep) (initial : S) (requests : List Req)
    (order : List Nat) (id : Nat) (reply : Rep)
    : Prop :=
  ∃ before after request,
    order = before ++ id :: after
    ∧ requests[id]? = some request
    ∧ (serve (stateAfter serve initial requests before) request).2 = some reply

/-- One sequential order of all requests gives every reply, and a request that was replied to
before another one was sent comes before it.
-/
structure Linearizes (serve : S → Req → S × Option Rep) (initial : S) (requests : List Req)
    (events : List (Event Rep)) (order : List Nat)
    : Prop where
  all : order.Perm (List.range requests.length)
  replies
    : ∀ id reply, .replied id reply ∈ events → Answers serve initial requests order id reply
  realTime
    : ∀ first reply second,
        [.replied first reply, .sent second].Sublist events → [first, second].Sublist order

/-- The requests committed so far explain the history so far. -/
structure Committed (serve : S → Req → S × Option Rep) (initial : S) (requests : List Req)
    (events : List (Event Rep)) (done : List Nat) (current : S)
    : Prop where
  nodup : done.Nodup
  sent : ∀ id ∈ done, id < requests.length
  numbered : ∀ id, .sent id ∈ events → id < requests.length
  current : stateAfter serve initial requests done = current
  replies
    : ∀ id reply, .replied id reply ∈ events → Answers serve initial requests done id reply
  realTime
    : ∀ first reply second,
        [.replied first reply, .sent second].Sublist events
        → second ∈ done
        → [first, second].Sublist done

section

variable {serve : S → Req → S × Option Rep} {initial current : S} {requests : List Req}
  {events : List (Event Rep)} {done : List Nat}

/-- Serving more requests continues from the state after the first ones. -/
theorem stateAfter_append (first second : List Nat)
    : stateAfter serve initial requests (first ++ second)
      = stateAfter serve (stateAfter serve initial requests first) requests second :=
  List.foldl_append

/-- A new request at the end of the numbering changes nothing for the earlier ones, by
induction on the order.
-/
theorem stateAfter_sent {request : Req} (within : ∀ id ∈ done, id < requests.length)
    : stateAfter serve initial (requests ++ [request]) done
      = stateAfter serve initial requests done := by
  induction done generalizing initial with
  | nil => rfl
  | cons id rest ih =>
      have bound := within id (by simp)
      simp only [stateAfter, List.foldl_cons, List.getElem?_append_left bound] at ih ⊢
      exact ih (fun other member => within other (List.mem_cons_of_mem _ member))

/-- An answered request is in the order. -/
theorem Answers.mem {id : Nat} {reply : Rep} (h : Answers serve initial requests done id reply)
    : id ∈ done := by
  obtain ⟨before, after, request, rfl, -, -⟩ := h
  simp

/-- Requests that come later do not influence an answer. -/
theorem Answers.append {id : Nat} {reply : Rep} (later : List Nat)
    (h : Answers serve initial requests done id reply)
    : Answers serve initial requests (done ++ later) id reply := by
  obtain ⟨before, after, request, rfl, found, replied⟩ := h
  exact ⟨before, after ++ later, request, by simp, found, replied⟩

theorem Answers.sent {id : Nat} {reply : Rep} {request : Req}
    (within : ∀ id ∈ done, id < requests.length)
    (h : Answers serve initial requests done id reply)
    : Answers serve initial (requests ++ [request]) done id reply := by
  obtain ⟨before, after, own, rfl, found, replied⟩ := h
  refine ⟨before, after, own, rfl, ?_, ?_⟩
  · exact (List.getElem?_append_left (within id (by simp))).trans found
  · rwa [stateAfter_sent (fun other member => within other (by simp [member]))]

/-- A pair inside a list that ends in something else is inside what comes before it. -/
theorem pair_sublist_concat {α : Type} {first second last : α} {items : List α}
    (h : [first, second].Sublist (items ++ [last]))
    : [first, second].Sublist items ∨ second = last ∧ first ∈ items := by
  obtain ⟨left, right, split, inItems, inLast⟩ := List.sublist_append_iff.mp h
  rcases right with _ | ⟨item, _ | ⟨other, rest⟩⟩
  · exact .inl (by simpa [split] using inItems)
  · rcases left with _ | ⟨one, _ | ⟨two, more⟩⟩
    · simp at split
    · simp only [List.cons_append, List.nil_append, List.cons.injEq, and_true] at split
      obtain ⟨rfl, rfl⟩ := split
      exact .inr ⟨by simpa using inLast, List.singleton_sublist.mp inItems⟩
    · simp at split
  · exact absurd inLast.length_le (by simp)

namespace Committed

/-- Nothing has happened yet. -/
theorem start (serve : S → Req → S × Option Rep) (initial : S)
    : Committed serve initial [] [] [] initial := by
  constructor <;> simp [stateAfter]

/-- A request that is sent gets the next number. -/
theorem send (h : Committed serve initial requests events done current) (request : Req)
    : Committed serve initial (requests ++ [request]) (events ++ [.sent requests.length]) done
        current where
  nodup := h.nodup
  sent id member := by
    have bound := h.sent id member
    simp
    omega
  numbered id member := by
    rw [List.length_append, List.length_singleton]
    rcases List.mem_append.mp member with before | new
    · exact Nat.lt_succ_of_lt (h.numbered id before)
    · cases List.mem_singleton.mp new
      exact Nat.lt_succ_self _
  current := (stateAfter_sent h.sent).trans h.current
  replies id reply replied := by
    have before : .replied id reply ∈ events := by simpa using replied
    exact (h.replies id reply before).sent h.sent
  realTime first reply second ordered member := by
    rcases pair_sublist_concat ordered with before | ⟨same, -⟩
    · exact h.realTime first reply second before member
    · cases same
      exact absurd (h.sent _ member) (Nat.lt_irrefl _)

/-- A request that takes effect is served next. -/
theorem commit (h : Committed serve initial requests events done current) {id : Nat}
    {request : Req} (found : requests[id]? = some request) (fresh : id ∉ done)
    : Committed serve initial requests events (done ++ [id]) (serve current request).1 where
  nodup := h.nodup.append (List.nodup_singleton id) (by simpa using fresh)
  sent other member := by
    rcases List.mem_append.mp member with before | new
    · exact h.sent other before
    · rw [List.mem_singleton.mp new]
      exact (List.getElem?_eq_some_iff.mp found).1
  numbered := h.numbered
  current := by
    rw [stateAfter_append, h.current]
    simp [stateAfter, found]
  replies other reply replied := (h.replies other reply replied).append [id]
  realTime first reply second ordered member := by
    rcases List.mem_append.mp member with before | new
    · exact (h.realTime first reply second ordered before).trans (List.sublist_append_left _ _)
    · have replied : .replied first reply ∈ events := ordered.subset (by simp)
      rw [List.mem_singleton.mp new]
      exact (List.singleton_sublist.mpr (h.replies first reply replied).mem).append (.refl [id])

/-- The reply of a request that takes effect is the one it is served. -/
theorem answers_commit (h : Committed serve initial requests events done current) {id : Nat}
    {request : Req} {reply : Rep} (found : requests[id]? = some request)
    (served : (serve current request).2 = some reply)
    : Answers serve initial requests (done ++ [id]) id reply :=
  ⟨done, [], request, rfl, found, h.current.symm ▸ served⟩

/-- An answered request is replied to. -/
theorem reply (h : Committed serve initial requests events done current) {id : Nat} {reply : Rep}
    (answered : Answers serve initial requests done id reply)
    : Committed serve initial requests (events ++ [.replied id reply]) done current where
  nodup := h.nodup
  sent := h.sent
  numbered other member := h.numbered other (by simpa using member)
  current := h.current
  replies other given replied := by
    rcases List.mem_append.mp replied with before | new
    · exact h.replies other given before
    · cases List.mem_singleton.mp new
      exact answered
  realTime first given second ordered member := by
    rcases pair_sublist_concat ordered with before | ⟨same, -⟩
    · exact h.realTime first given second before member
    · cases same

/-- The committed requests followed by all others linearize the history. -/
theorem linearizes (h : Committed serve initial requests events done current)
    : ∃ order, Linearizes serve initial requests events order := by
  refine ⟨done ++ (List.range requests.length).filter (· ∉ done), ?_, ?_, ?_⟩
  · have early : ((List.range requests.length).filter (· ∈ done)).Perm done := by
      refine (List.perm_ext_iff_of_nodup (List.nodup_range.filter _) h.nodup).mpr (fun id => ?_)
      simpa using h.sent id
    have split := List.filter_append_perm (fun id => decide (id ∈ done))
      (List.range requests.length)
    refine (early.symm.append_right _).trans ?_
    simpa using split
  · exact fun id reply replied => (h.replies id reply replied).append _
  · intro first reply second ordered
    have early := (h.replies first reply (ordered.subset (by simp))).mem
    by_cases member : second ∈ done
    · exact (h.realTime first reply second ordered member).trans (List.sublist_append_left _ _)
    · have bound := h.numbered second (ordered.subset (by simp))
      have later : second ∈ (List.range requests.length).filter (· ∉ done) := by
        simp [bound, member]
      exact (List.singleton_sublist.mpr early).append (List.singleton_sublist.mpr later)

end Committed

end

end Linearization
