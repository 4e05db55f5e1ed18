import DaprHosting.Http.Wire

/-!
# Exchanges

What a single exchange does to a wire, by `exchange_asked`: a request that cannot be sent leaves the
wire alone, any other is sent and takes the next answer, whatever that is. `Exchanged` says the same
of any number of requests in a row: which were sent, and that each was answered in its turn.
-/

namespace DaprHosting.Http

/-! ## 1. One exchange -/

/-- The request can be sent over the network. -/
def Request.sendable (network : Network) (q : Request) : Prop :=
  isHeaderText q.token = true ∧ network.carries q.url = true

namespace Wire

/-- What the next request is answered, if anything. -/
def answer (w : Wire) : Option Response := w.pending[0]?.bind Delivery.response?

/-- The wire after a request was sent. -/
def send (w : Wire) (q : Request) : Wire := ⟨w.pending.drop 1, w.sent ++ [q]⟩

end Wire

/-- **How an action that makes one request can go**: not sent, or sent and its answer read by
    `read`. -/
inductive Asked {α : Type} (network : Network) (q : Request)
    (read : Option Response → Except ClientError α) (w : Wire) :
    Except ClientError α → Wire → Prop where
  | unsent (h : ¬ q.sendable network) (e : ClientError) : Asked network q read w (.error e) w
  | sent (h : q.sendable network) : Asked network q read w (read w.answer) (w.send q)

theorem Asked.or {α : Type} {network : Network} {q : Request}
    {read : Option Response → Except ClientError α} {w w' : Wire} {res : Except ClientError α}
    (h : Asked network q read w res w') :
    (¬ q.sendable network ∧ (∃ e, res = .error e) ∧ w' = w) ∨
      (q.sendable network ∧ res = read w.answer ∧ w' = w.send q) := by
  cases h with
  | unsent h e => exact .inl ⟨h, ⟨e, rfl⟩, rfl⟩
  | sent h => exact .inr ⟨h, rfl, rfl⟩

/-- The response, which has to be there. -/
def received : Option Response → Except ClientError Response
  | some r => .ok r
  | none => .error noResponse

theorem exchange_asked (network : Network) (q : Request) (w : Wire) :
    Asked network q received w (exchange network q w).result (exchange network q w).state := by
  unfold exchange
  split
  · rename_i h
    rw [Bool.and_eq_true] at h
    have hs : Asked network q received w (received w.answer) (w.send q) := .sent h
    rcases w with ⟨_ | ⟨d, rest⟩, sent⟩
    · exact hs
    · cases d <;> exact hs
  · rename_i h
    exact .unsent (fun hq => h (by rw [hq.1, hq.2]; rfl)) _

/-! ## 2. Many exchanges -/

/-- The wire went from one state to the other by these requests, with these answers. -/
structure Exchanged (network : Network) (w : Wire) (t : List (Request × Option Response))
    (w' : Wire) : Prop where
  /-- The requests were sent, in their order. -/
  sent : w'.sent = w.sent ++ t.map Prod.fst
  /-- The network carried them. -/
  sendable : ∀ x ∈ t, x.1.sendable network
  /-- Each of them took a delivery. -/
  pending : w'.pending = w.pending.drop t.length
  /-- Its answer is what was delivered in its turn. -/
  answered : ∀ (i : Nat) (x : Request × Option Response), t[i]? = some x →
    x.2 = w.pending[i]?.bind Delivery.response?

namespace Exchanged

variable {network : Network} {w w' w'' : Wire} {t t' : List (Request × Option Response)}

theorem nil (w : Wire) : Exchanged network w [] w :=
  ⟨(List.append_nil _).symm, fun _ h => (nomatch h), rfl, fun _ _ h => (nomatch h)⟩

theorem one (w : Wire) {q : Request} (hq : q.sendable network) :
    Exchanged network w [(q, w.answer)] (w.send q) := by
  refine ⟨rfl, ?_, rfl, ?_⟩
  · intro x hx
    rw [List.mem_singleton.mp hx]
    exact hq
  · intro i x h
    cases i with
    | zero => cases h; rfl
    | succ i => cases h

/-- **Exchanges add up.** -/
theorem append (h : Exchanged network w t w') (h' : Exchanged network w' t' w'') :
    Exchanged network w (t ++ t') w'' := by
  refine ⟨?_, ?_, ?_, ?_⟩
  · rw [h'.sent, h.sent, List.append_assoc, List.map_append]
  · intro x hx
    exact (List.mem_append.mp hx).elim (h.sendable x) (h'.sendable x)
  · rw [h'.pending, h.pending, List.drop_drop, List.length_append]
  · intro i x hx
    rw [List.getElem?_append] at hx
    split at hx
    · exact h.answered i x hx
    · rename_i hi
      have he := h'.answered _ _ hx
      rwa [h.pending, List.getElem?_drop, Nat.add_sub_cancel' (Nat.le_of_not_lt hi)] at he

end Exchanged

end DaprHosting.Http
