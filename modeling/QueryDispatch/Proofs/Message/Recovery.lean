import QueryDispatch.Proofs.Message.Codec

/-!
# What is recovered of a message that is no query

A message that is rejected is answered all the same, and the answer is addressed with what could be
read of it. What a message tells is said here of its frames alone: the route is the first frame, the
command what the second spells, and the id what the third counts, but that only if there is a
command before it. `Recovers` says that all this was read, and nothing else, and `FirstDefect` what
is complained of: the first thing that is wrong, in the order of the frames.

Each of the three is told by one frame, so that further frames neither take it away nor change it,
and a message of which the first three frames are known has nothing more to tell.

## Main results

* `Request.decode_eq_error_iff`: what is recovered of a message, and what is complained of, for
  every message that is rejected.
* `Request.recovers_progressively`: this, and what it means for longer messages.
-/

namespace QueryDispatch

namespace Wire.Word

/-- The bytes of a word are its digits in base 256, the least significant first. -/
theorem encode_eq_iff {w : UInt32} {a b c d : UInt8} :
    encode w = [a, b, c, d] ↔
      w.toNat = a.toNat + 256 * b.toNat + 65536 * c.toNat + 16777216 * d.toNat := by
  have hsum : (ofBytes a b c d).toNat =
      a.toNat + 256 * b.toNat + 65536 * c.toNat + 16777216 * d.toNat := by
    have ha := a.toNat_lt
    have hb := b.toNat_lt
    have hc := c.toNat_lt
    have hd := d.toNat_lt
    rw [ofBytes, UInt32.toNat_ofNat']
    omega
  rw [← hsum, UInt32.toNat_inj]
  constructor
  · intro h
    have hread := congrArg decode? h
    rw [decode?_encode] at hread
    exact Option.some.inj hread
  · rintro rfl
    exact encode_ofBytes a b c d

end Wire.Word

namespace Request

/-! ### What a message tells -/

/-- The message tells this route: it is the first frame. -/
def TellsRoute (frames : Frames) (route : Route) : Prop := frames[0]? = some route.bytes

/-- The message tells this command: the second frame spells it. -/
def TellsCommand (frames : Frames) (command : String) : Prop :=
  frames[1]? = some (Wire.utf8 command)

/-- The message tells this id: it tells a command, and the third frame is the four bytes of the id,
least significant first. -/
def TellsId (frames : Frames) (id : UInt32) : Prop :=
  (∃ command, TellsCommand frames command) ∧
    ∃ a b c d : UInt8, frames[2]? = some [a, b, c, d] ∧
      id.toNat = a.toNat + 256 * b.toNat + 65536 * c.toNat + 16777216 * d.toNat

/-- What is found is what is told, and this default where nothing is told. -/
def Reads {α : Type} (tells : α → Prop) (default found : α) : Prop :=
  tells found ∨ (∀ x, ¬ tells x) ∧ found = default

/-- What was recovered is what the message tells, and empty or zero where it does not tell it. -/
structure Recovers (frames : Frames) (m : MalformedRequest) : Prop where
  route : Reads (TellsRoute frames) .empty m.route
  command : Reads (TellsCommand frames) "" m.command
  id : Reads (TellsId frames) 0 m.id

/-- The first thing, in the order of the frames, by which a message fails to be a query. -/
inductive FirstDefect : Frames → DecodeError → Prop where
  | noRoute : FirstDefect [] (.frameCount 0)
  | noCommand {route : Bytes} : FirstDefect [route] (.frameCount 1)
  | command {route command : Bytes} {rest : Frames} (hcommand : ¬ Wire.WellFormed command) :
      FirstDefect (route :: command :: rest) .invalidCommand
  | noId {route command : Bytes} (hcommand : Wire.WellFormed command) :
      FirstDefect [route, command] (.frameCount 2)
  | id {route command id : Bytes} {rest : Frames} (hcommand : Wire.WellFormed command)
      (hid : id.length ≠ 4) :
      FirstDefect (route :: command :: id :: rest) (.invalidCorrelationId id.length)
  | bodies {route command id : Bytes} {rest : Frames} (hcommand : Wire.WellFormed command)
      (hid : id.length = 4) (hrest : rest.length ≠ 1) :
      FirstDefect (route :: command :: id :: rest)
        (.frameCount (route :: command :: id :: rest).length)

section Tells

variable {frames frames' : Frames} {route route' : Route} {command command' : String}
  {id id' : UInt32}

/-- An id is told by a message whose command could be read. -/
theorem tellsId_iff :
    TellsId frames id ↔
      (∃ command, TellsCommand frames command) ∧ frames[2]? = some (Wire.Word.encode id) := by
  refine and_congr_right fun _ ↦ ⟨?_, fun hid ↦ ?_⟩
  · rintro ⟨a, b, c, d, hid, hsum⟩
    rw [hid, Wire.Word.encode_eq_iff.2 hsum]
  · exact ⟨_, _, _, _, hid, Wire.Word.encode_eq_iff.1 rfl⟩

/-! A message tells one route, one command and one id at most. -/

/-- Frames tell one route only. -/
theorem TellsRoute.eq (h : TellsRoute frames route) (h' : TellsRoute frames route') :
    route = route' := by
  have hbytes : route.bytes = route'.bytes := Option.some.inj (h.symm.trans h')
  cases route
  cases route'
  cases hbytes
  rfl

/-- Frames tell one command only. -/
theorem TellsCommand.eq (h : TellsCommand frames command) (h' : TellsCommand frames command') :
    command = command' :=
  Wire.utf8_injective (Option.some.inj (h.symm.trans h'))

/-- Frames tell one identifier only. -/
theorem TellsId.eq (h : TellsId frames id) (h' : TellsId frames id') : id = id' := by
  have hbytes := Option.some.inj ((tellsId_iff.1 h).2.symm.trans (tellsId_iff.1 h').2)
  have hread := congrArg Wire.Word.decode? hbytes
  rw [Wire.Word.decode?_encode, Wire.Word.decode?_encode] at hread
  exact Option.some.inj hread

/-! Further frames leave all this as it is. -/

/-- More frames do not change the route that is told. -/
theorem TellsRoute.append (h : TellsRoute frames route) (extra : Frames) :
    TellsRoute (frames ++ extra) route :=
  (List.getElem?_append_left (List.getElem?_eq_some_iff.1 h).1).trans h

/-- More frames do not change the command that is told. -/
theorem TellsCommand.append (h : TellsCommand frames command) (extra : Frames) :
    TellsCommand (frames ++ extra) command :=
  (List.getElem?_append_left (List.getElem?_eq_some_iff.1 h).1).trans h

/-- More frames do not change the identifier that is told. -/
theorem TellsId.append (h : TellsId frames id) (extra : Frames) :
    TellsId (frames ++ extra) id := by
  obtain ⟨⟨command, hcommand⟩, hid⟩ := tellsId_iff.1 h
  refine tellsId_iff.2 ⟨⟨command, hcommand.append extra⟩, ?_⟩
  exact (List.getElem?_append_left (List.getElem?_eq_some_iff.1 hid).1).trans hid

/-- A message that is accepted tells everything. -/
theorem tells_of_decode {security : Security} {r : Request}
    (h : decode security frames = .ok r) :
    TellsRoute frames r.route ∧ TellsCommand frames r.command ∧ TellsId frames r.id := by
  obtain ⟨rfl, -⟩ := encode_of_decode h
  exact ⟨rfl, rfl, tellsId_iff.2 ⟨⟨r.command, rfl⟩, rfl⟩⟩

end Tells

/-! ### What is recovered -/

section Reads

variable {α : Type} {tells : α → Prop} {default found found' : α}

/-- What is recovered is what the frames tell, if they tell anything. -/
theorem Reads.eq_of_tells (h : Reads tells default found)
    (hone : ∀ {x y}, tells x → tells y → x = y) {x : α} (hx : tells x) : found = x := by
  rcases h with htells | ⟨hnone, -⟩
  · exact hone htells hx
  · exact absurd hx (hnone x)

/-- Nothing but one thing is recovered of a part. -/
theorem Reads.eq (h : Reads tells default found) (h' : Reads tells default found')
    (hone : ∀ {x y}, tells x → tells y → x = y) : found = found' := by
  rcases h with htells | ⟨hnone, hfound⟩
  · exact (h'.eq_of_tells hone htells).symm
  · rcases h' with htells' | ⟨-, hfound'⟩
    · exact absurd htells' (hnone _)
    · rw [hfound, hfound']

end Reads

section Recovers

variable {frames frames' : Frames} {m m' : MalformedRequest}

/-- Who tells no command tells no id either. -/
theorem Recovers.of_tellsRoute (hroute : TellsRoute frames m.route)
    (hnone : ∀ command, ¬ TellsCommand frames command) (hcommand : m.command = "")
    (hid : m.id = 0) : Recovers frames m where
  route := .inl hroute
  command := .inr ⟨hnone, hcommand⟩
  id := .inr ⟨fun _ htells ↦ htells.1.elim hnone, hid⟩

/-- Of a message that tells route and command but no id, these two are recovered. -/
theorem Recovers.of_tellsCommand (hroute : TellsRoute frames m.route)
    (hcommand : TellsCommand frames m.command)
    (hnone : ∀ id, frames[2]? ≠ some (Wire.Word.encode id)) (hid : m.id = 0) :
    Recovers frames m where
  route := .inl hroute
  command := .inl hcommand
  id := .inr ⟨fun id htells ↦ hnone id (tellsId_iff.1 htells).2, hid⟩

/-- Two that were recovered of the same message are the same, apart from what they complain of. -/
theorem Recovers.eq (h : Recovers frames m) (h' : Recovers frames m') :
    m.route = m'.route ∧ m.command = m'.command ∧ m.id = m'.id :=
  ⟨h.route.eq h'.route TellsRoute.eq, h.command.eq h'.command TellsCommand.eq,
    h.id.eq h'.id TellsId.eq⟩

/-- What is recovered hangs on the first three frames only. -/
theorem Recovers.of_take (h : Recovers frames m) (htake : frames.take 3 = frames'.take 3) :
    Recovers frames' m := by
  have hget : ∀ i < 3, frames'[i]? = frames[i]? := fun i hi ↦ by
    rw [← List.getElem?_take_of_lt hi, ← htake, List.getElem?_take_of_lt hi]
  have hroute : TellsRoute frames' = TellsRoute frames := by
    funext route
    rw [TellsRoute, TellsRoute, hget 0 (by decide)]
  have hcommand : TellsCommand frames' = TellsCommand frames := by
    funext command
    rw [TellsCommand, TellsCommand, hget 1 (by decide)]
  have hid : TellsId frames' = TellsId frames := by
    funext id
    rw [TellsId, TellsId, hcommand, hget 2 (by decide)]
  exact ⟨hroute ▸ h.route, hcommand ▸ h.command, hid ▸ h.id⟩

end Recovers

/-! ### Rejecting -/

section Rejecting

variable {security : Security} {frames : Frames} {m : MalformedRequest} {e e' : DecodeError}

/-- A message that is rejected has a defect, and what it tells is recovered. -/
theorem recovers_of_decode (h : decode security frames = .error m) :
    Recovers frames m ∧ FirstDefect frames m.error := by
  unfold decode at h
  split at h
  · cases h
    refine ⟨⟨.inr ⟨nofun, rfl⟩, .inr ⟨nofun, rfl⟩, .inr ⟨fun _ hid ↦ ?_, rfl⟩⟩, .noRoute⟩
    exact hid.1.elim nofun
  · cases h
    exact ⟨.of_tellsRoute rfl nofun rfl rfl, .noCommand⟩
  · next route commandFrame rest =>
    split at h
    · next hcommand =>
      have hformed := Wire.ofUtf8?_eq_none_iff.1 hcommand
      cases h
      refine ⟨.of_tellsRoute rfl (fun command hframe ↦ ?_) rfl rfl, .command hformed⟩
      obtain rfl := Option.some.inj hframe
      exact hformed (Wire.wellFormed_utf8 command)
    · next command hcommand =>
      obtain rfl := Wire.ofUtf8?_eq_some_iff.1 hcommand
      have hformed := Wire.wellFormed_utf8 command
      split at h
      · cases h
        exact ⟨.of_tellsCommand rfl rfl nofun rfl, .noId hformed⟩
      · next idFrame rest =>
        split at h
        · next hid =>
          have hlength := Wire.Word.decode?_eq_none_iff.1 hid
          cases h
          refine ⟨.of_tellsCommand rfl rfl (fun id hframe ↦ ?_) rfl, .id hformed hlength⟩
          obtain rfl := Option.some.inj hframe
          exact hlength (Wire.Word.length_encode id)
        · next id hid =>
          obtain rfl := Wire.Word.decode?_eq_some_iff.1 hid
          split at h
          · cases h
          · next hbody =>
            cases h
            have hrest : rest.length ≠ 1 := fun hone ↦ by
              obtain ⟨body, rfl⟩ := List.length_eq_one_iff.1 hone
              exact hbody body rfl
            refine ⟨⟨.inl rfl, .inl rfl, .inl (tellsId_iff.2 ⟨⟨command, rfl⟩, rfl⟩)⟩, ?_⟩
            have hcount : (route :: Wire.utf8 command :: Wire.Word.encode id :: rest).length =
                3 + rest.length := Nat.add_comm _ 3
            exact hcount ▸ .bodies hformed (Wire.Word.length_encode id) hrest

/-- A message with a defect is rejected for it. -/
theorem FirstDefect.exists_decode (h : FirstDefect frames e) (security : Security) :
    ∃ m, decode security frames = .error m ∧ m.error = e := by
  cases h with
  | noRoute | noCommand => exact ⟨_, rfl, rfl⟩
  | command hcommand =>
    rw [decode, Wire.ofUtf8?_eq_none_iff.2 hcommand]
    exact ⟨_, rfl, rfl⟩
  | noId hcommand =>
    obtain ⟨text, rfl⟩ := hcommand.exists_utf8
    rw [decode, Wire.ofUtf8?_utf8]
    exact ⟨_, rfl, rfl⟩
  | id hcommand hid =>
    obtain ⟨text, rfl⟩ := hcommand.exists_utf8
    rw [decode, Wire.ofUtf8?_utf8]
    dsimp only
    rw [Wire.Word.decode?_eq_none_iff.2 hid]
    exact ⟨_, rfl, rfl⟩
  | @bodies _ _ _ rest hcommand hid hrest =>
    obtain ⟨text, rfl⟩ := hcommand.exists_utf8
    obtain ⟨w, rfl⟩ := Wire.Word.exists_encode hid
    rw [decode, Wire.ofUtf8?_utf8]
    dsimp only
    rw [Wire.Word.decode?_encode]
    dsimp only
    split
    · exact absurd rfl hrest
    · exact ⟨_, rfl, congrArg DecodeError.frameCount (Nat.add_comm 3 _)⟩

/-- **A message is rejected exactly for its first defect, with what it tells.** -/
theorem decode_eq_error_iff :
    decode security frames = .error m ↔ Recovers frames m ∧ FirstDefect frames m.error := by
  refine ⟨recovers_of_decode, fun ⟨hrecovers, hdefect⟩ ↦ ?_⟩
  obtain ⟨m', hdecode, herror⟩ := hdefect.exists_decode security
  obtain ⟨hrecovers', -⟩ := recovers_of_decode hdecode
  -- both hold the same, field by field
  have heq : m' = m := by
    cases m
    cases m'
    simp only [MalformedRequest.mk.injEq]
    obtain ⟨hroute, hcommand, hid⟩ := hrecovers'.eq hrecovers
    exact ⟨hroute, hcommand, hid, herror⟩
  rw [hdecode, heq]

end Rejecting

/-- **What a message tells is recovered, frame by frame, and never lost.** A message is rejected
exactly if it has a defect; the first one, in the order of the frames, is complained of, and the
route, the command and the id are those that the message tells. Two messages that are rejected, on
whichever channels, and have the same first three frames tell the same. When further frames are
added to a message that is rejected, then what it told before is what is recovered of the longer
message, if that is rejected, and what that message says, if it is accepted. -/
theorem recovers_progressively (security : Security) (frames : Frames) :
    (∀ m, decode security frames = .error m ↔ Recovers frames m ∧ FirstDefect frames m.error) ∧
    (∀ security' frames' m m', decode security frames = .error m →
      decode security' frames' = .error m' → frames.take 3 = frames'.take 3 →
      m.route = m'.route ∧ m.command = m'.command ∧ m.id = m'.id) ∧
    ∀ m extra, decode security frames = .error m →
      (∀ m', decode security (frames ++ extra) = .error m' →
        (TellsRoute frames m.route → m'.route = m.route) ∧
        (TellsCommand frames m.command → m'.command = m.command) ∧
        (TellsId frames m.id → m'.id = m.id)) ∧
      ∀ r, decode security (frames ++ extra) = .ok r →
        (TellsRoute frames m.route → r.route = m.route) ∧
        (TellsCommand frames m.command → r.command = m.command) ∧
        (TellsId frames m.id → r.id = m.id) := by
  refine ⟨fun m ↦ decode_eq_error_iff, fun security' frames' m m' h h' htake ↦ ?_,
    fun m extra h ↦ ⟨fun m' h' ↦ ?_, fun r hr ↦ ?_⟩⟩
  · exact ((recovers_of_decode h).1.of_take htake).eq (recovers_of_decode h').1
  · obtain ⟨hroute, hcommand, hid⟩ := (recovers_of_decode h').1
    exact ⟨fun htells ↦ hroute.eq_of_tells TellsRoute.eq (htells.append extra),
      fun htells ↦ hcommand.eq_of_tells TellsCommand.eq (htells.append extra),
      fun htells ↦ hid.eq_of_tells TellsId.eq (htells.append extra)⟩
  · obtain ⟨hroute, hcommand, hid⟩ := tells_of_decode hr
    exact ⟨fun htells ↦ hroute.eq (htells.append extra),
      fun htells ↦ hcommand.eq (htells.append extra), fun htells ↦ hid.eq (htells.append extra)⟩

/-- The command `Q` with an id and no body: a body makes it a query, a second body does not. -/
theorem recovers_without_body :
    Recovers [[1], [81], [4, 3, 2, 1]] ⟨⟨[1]⟩, "Q", 16909060, .frameCount 3⟩ ∧
      FirstDefect [[1], [81], [4, 3, 2, 1]] (.frameCount 3) ∧
      ∃ m' r, decode .unsecured [[1], [81], [4, 3, 2, 1], [5], [6]] = .error m' ∧
        decode .secure ([[1], [81], [4, 3, 2, 1]] ++ [[5]]) = .ok r ∧
        ((⟨[1]⟩ : Route) = m'.route ∧ "Q" = m'.command ∧ 16909060 = m'.id) ∧
        r.route = ⟨[1]⟩ ∧ r.command = "Q" ∧ r.id = 16909060 := by
  obtain ⟨hwhy, hthree, hlonger⟩ := recovers_progressively .secure [[1], [81], [4, 3, 2, 1]]
  have hdecode : decode .secure [[1], [81], [4, 3, 2, 1]] =
      .error ⟨⟨[1]⟩, "Q", 16909060, .frameCount 3⟩ := rfl
  have hid : TellsId [[1], [81], [4, 3, 2, 1]] 16909060 := ⟨⟨"Q", rfl⟩, 4, 3, 2, 1, rfl, rfl⟩
  obtain ⟨hrecovers, hdefect⟩ := (hwhy _).1 hdecode
  obtain ⟨-, haccepted⟩ := hlonger _ [[5]] hdecode
  obtain ⟨hroute, hcommand, hid'⟩ := haccepted ⟨⟨[1]⟩, "Q", 16909060, [5], .secure⟩ rfl
  exact ⟨hrecovers, hdefect, ⟨⟨[1]⟩, "Q", 16909060, .frameCount 5⟩, _, rfl, rfl,
    hthree .unsecured [[1], [81], [4, 3, 2, 1], [5], [6]] _ _ hdecode rfl rfl,
    hroute rfl, hcommand rfl, hid' hid⟩

end Request

end QueryDispatch
