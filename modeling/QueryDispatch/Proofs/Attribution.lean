import QueryDispatch.Channel
import QueryDispatch.Proofs.Wire.Hex

/-!
# Whom the log names

The log names a peer by a text. A channel that hides nobody shows a route as its hexadecimal, or by
a placeholder if there is nothing to show. The placeholder stands in brackets, as does the text for
hidden peers, and no digit is a bracket. So whoever reads a text as hexadecimal learns of which kind
it is, and if it shows a route, which one (`Route.decode?_display`).

## Main results

* `Channel.log_tells_peers_apart`: what is shown of a peer tells which one it is.
-/

namespace QueryDispatch

/-! ### The text of a route -/

namespace Route

/-- An empty route is shown by the placeholder. -/
theorem display_of_eq_nil {r : Route} (h : r.bytes = []) : r.display = "[unrouted]" :=
  if_pos (List.isEmpty_iff.2 h)

/-- **A text that reads as hexadecimal shows the route that it reads as**, and one that does not
shows that there is no route. -/
theorem decode?_display (r : Route) :
    Wire.Hex.decode? r.display = if r.bytes = [] then none else some r.bytes := by
  split
  · next hempty =>
    rw [display_of_eq_nil hempty]
    decide
  · next hne => rw [display_of_ne_nil hne, Wire.Hex.decode?_encode]

/-- Routes are shown alike if and only if their bytes are the same. -/
theorem display_inj {r r' : Route} : r.display = r'.display ↔ r.bytes = r'.bytes := by
  constructor
  · intro h
    -- what reads as nothing is no route, so both are empty or neither is
    have hread := congrArg Wire.Hex.decode? h
    rw [decode?_display, decode?_display] at hread
    by_cases hr : r.bytes = [] <;> by_cases hr' : r'.bytes = []
    · rw [hr, hr']
    · rw [if_pos hr, if_neg hr'] at hread
      cases hread
    · rw [if_neg hr, if_pos hr'] at hread
      cases hread
    · rw [if_neg hr, if_neg hr'] at hread
      exact Option.some.inj hread
  · intro h
    rw [display, display, isEmpty, isEmpty, h]

/-- The placeholder shows the empty route and no other. -/
theorem display_eq_unrouted_iff (r : Route) : r.display = "[unrouted]" ↔ r.bytes = [] :=
  @display_inj r .empty

/-- No route is shown as hidden peers are. -/
theorem display_ne_redactedPeer (r : Route) : r.display ≠ Channel.redactedPeer := by
  intro h
  have hunread : Wire.Hex.decode? Channel.redactedPeer = none := by decide
  have hread := r.decode?_display
  rw [h, hunread] at hread
  split at hread
  · next hempty =>
    rw [display_of_eq_nil hempty] at h
    exact absurd h (by decide)
  · cases hread

end Route

namespace Channel

/-- A channel that hides nobody shows every route as it is. -/
theorem showPeer_of_not_redactRoutes {c : Channel} (hopen : c.redactRoutes = false) (r : Route) :
    c.showPeer r = r.display := if_neg (ne_true_of_eq_false hopen)

/-- **What a channel that hides nobody shows of a peer tells which one it is.** Two peers are shown
alike only if they are the same. A route is shown as its lower-case hexadecimal, which reads back as
the route, and an empty one by a placeholder that shows no other. Neither is ever the text that
stands for hidden peers. -/
theorem log_tells_peers_apart (c : Channel) (hopen : c.redactRoutes = false) :
    (∀ r r' : Route, c.showPeer r = c.showPeer r' ↔ r.bytes = r'.bytes) ∧
    (∀ r : Route, r.bytes ≠ [] →
      Wire.Hex.Denotes (c.showPeer r) r.bytes ∧
        Wire.Hex.decode? (c.showPeer r) = some r.bytes) ∧
    (∀ r : Route, c.showPeer r = "[unrouted]" ↔ r.bytes = []) ∧
    ∀ r : Route, c.showPeer r ≠ "[redacted]" := by
  have hshow : ∀ r, c.showPeer r = r.display := showPeer_of_not_redactRoutes hopen
  simp only [hshow]
  refine ⟨fun r r' ↦ Route.display_inj, fun r hne ↦ ?_, Route.display_eq_unrouted_iff,
    Route.display_ne_redactedPeer⟩
  refine ⟨Wire.Hex.denotes_iff.2 (Route.display_of_ne_nil hne), ?_⟩
  rw [Route.decode?_display, if_neg hne]

/-- Two routes that would be shown alike if a zero in front could be left out. -/
theorem log_tells_peers_apart_zeros :
    let c : Channel := { security := .secure }
    let r : Route := ⟨[0x01, 0x23]⟩
    let r' : Route := ⟨[0x12, 0x03]⟩
    c.redactRoutes = false ∧ r.bytes ≠ [] ∧ c.showPeer r = "0123" ∧ c.showPeer r' = "1203" ∧
      c.showPeer r ≠ c.showPeer r' ∧ Wire.Hex.Denotes (c.showPeer r) [0x01, 0x23] ∧
      c.showPeer r ≠ "[unrouted]" ∧ c.showPeer r ≠ "[redacted]" := by
  intro c r r'
  have hne : r.bytes ≠ [] := by decide
  obtain ⟨hinj, hhex, hunrouted, hredacted⟩ := c.log_tells_peers_apart rfl
  exact ⟨rfl, hne, by decide, by decide, mt (hinj r r').1 (by decide), (hhex r hne).1,
    mt (hunrouted r).1 hne, hredacted r⟩

end Channel

end QueryDispatch
