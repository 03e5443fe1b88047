import Mathlib.Data.List.Nodup
import UsbDisplay.Proofs.Fleet

/-!
Runs of a fleet. Handles are given in order and never again, and what an owner may know of a handle,
whether it was given and whether its display was detached, decides whether it is known
(`Logbook.Sound`). After a detach nothing is painted any more on an adapter that heeds requests to
stop (`Vacated`).
-/

namespace UsbDisplay

open FlakyConsole (Request)

namespace Fleet

/-- What can happen to a fleet. -/
inductive Step where
  | call (c : Call)
  | happens (h : Happening)

/-- A fleet with the calls so far and what they answered. -/
structure Logbook where
  fleet : Fleet
  calls : List (Call × Except Error Reply) := []

/-- The handle that a call gave, with the socket of its display. -/
def given? : Call × Except Error Reply → Option (Nat × Nat)
  | (.attach socket, .ok (.attached handle)) => some (handle, socket)
  | _ => none

/-- The handle whose display a call detached. -/
def taken? : Call × Except Error Reply → Option Nat
  | (.detach handle _, .ok _) => some handle
  | _ => none

def Call.isAttach : Call → Bool
  | .attach _ => true
  | _ => false

namespace Logbook

/-- No display is attached yet. -/
def start (config : Config) (lines : Nat → RecordedLine FlakyLine) : Logbook where
  fleet := { registry := { config := config }, lines := lines }

def step (l : Logbook) : Step → Logbook
  | .call c => ⟨(l.fleet.perform c).2, l.calls ++ [(c, (l.fleet.perform c).1)]⟩
  | .happens h => { l with fleet := l.fleet.happen h }

def run (l : Logbook) (steps : List Step) : Logbook := steps.foldl step l

/-- The handles that were given, with the sockets of their displays. -/
def given (l : Logbook) : List (Nat × Nat) := l.calls.filterMap given?

/-- The handles whose displays were detached. -/
def taken (l : Logbook) : List Nat := l.calls.filterMap taken?

/-- The sockets of all displays that were attached. -/
def sockets (l : Logbook) : List Nat := l.given.map Prod.snd

/-- How often it was tried to attach a display. -/
def attaches (l : Logbook) : Nat := l.calls.countP (·.1.isAttach)

theorem given_call (l : Logbook) (c : Call) :
    (l.step (.call c)).given = l.given ++ (given? (c, (l.fleet.perform c).1)).toList := by
  rw [given, step, List.filterMap_append]
  cases h : given? (c, (l.fleet.perform c).1) <;> simp [given, h]

theorem taken_call (l : Logbook) (c : Call) :
    (l.step (.call c)).taken = l.taken ++ (taken? (c, (l.fleet.perform c).1)).toList := by
  rw [taken, step, List.filterMap_append]
  cases h : taken? (c, (l.fleet.perform c).1) <;> simp [taken, h]

theorem attaches_call (l : Logbook) (c : Call) :
    (l.step (.call c)).attaches = l.attaches + c.isAttach.toNat := by
  rw [attaches, step, List.countP_append]
  cases h : c.isAttach <;> simp [attaches, h]

end Logbook

variable {f : Fleet} {handle : Nat} {d : Device}

theorem place?_putBack (h : f.registry.find? handle = some d) {c : FlakyConsole}
    (hid : c.device.id = d.id) (hsocket : c.device.socket = d.socket) (other : Nat) :
    (f.putBack c).registry.place? other = f.registry.place? other := by
  rw [Registry.place?, find?_putBack h hid]
  split
  next hother => rw [hother, Registry.place?_of_find? h, Option.map_some, hsocket]
  next => rfl

theorem place?_happen (f : Fleet) (h : Happening) (other : Nat) :
    (f.happen h).registry.place? other = f.registry.place? other := by
  cases h with
  | move handle m =>
    rw [happen]
    split
    · rfl
    next d hd => exact place?_putBack hd rfl rfl other
  | leftCall n | leftResume n =>
    rw [happen, letGo]
    split <;> rfl
  | _ => rfl

theorem nextId_happen (f : Fleet) (h : Happening) :
    (f.happen h).registry.nextId = f.registry.nextId := by
  cases h with
  | move handle m =>
    rw [happen]
    split <;> rfl
  | leftCall n | leftResume n =>
    rw [happen, letGo]
    split <;> rfl
  | _ => rfl

theorem left_happen (f : Fleet) (h : Happening) : (f.happen h).left ⊆ f.left := by
  have hgo : ∀ n go, (f.letGo n go).left ⊆ f.left := by
    intro n go
    rw [letGo]
    split
    · exact List.Subset.refl _
    simp only
    split
    · exact List.eraseIdx_subset
    · exact List.Subset.refl _
  cases h with
  | move handle m =>
    rw [happen]
    split <;> exact List.Subset.refl _
  | leftCall n => exact hgo n _
  | leftResume n => exact hgo n _
  | _ => exact List.Subset.refl _

namespace Logbook

/-- What the answers so far say about handles is how it is. -/
structure Sound (l : Logbook) : Prop where
  numbered : l.given.map Prod.fst = List.range l.fleet.registry.nextId
  attached : l.fleet.registry.nextId ≤ l.attaches
  place : ∀ handle socket, l.fleet.registry.place? handle = some socket ↔
    (handle, socket) ∈ l.given ∧ handle ∉ l.taken
  taken : ∀ handle ∈ l.taken, handle < l.fleet.registry.nextId
  left : ∀ entry ∈ l.fleet.left, entry.2.token.isCancelled = true ∧
    ∃ handle ∈ l.taken, (handle, entry.1) ∈ l.given

variable {l : Logbook}

theorem sound_start (config : Config) (lines : Nat → RecordedLine FlakyLine) :
    (start config lines).Sound where
  numbered := rfl
  attached := Nat.zero_le _
  place _ _ := by simp [start, Registry.place?, Registry.find?, given]
  taken _ h := by cases h
  left _ h := by cases h

namespace Sound

theorem lt_of_given (h : l.Sound) {handle socket : Nat} (hgiven : (handle, socket) ∈ l.given) :
    handle < l.fleet.registry.nextId := by
  have hmem : handle ∈ l.given.map Prod.fst := List.mem_map.2 ⟨_, hgiven, rfl⟩
  rwa [h.numbered, List.mem_range] at hmem

/-- A call that neither attaches nor detaches a display. -/
theorem of_same (h : l.Sound) {l' : Logbook} (hgiven : l'.given = l.given)
    (htaken : l'.taken = l.taken) (hattaches : l.attaches ≤ l'.attaches)
    (hnext : l'.fleet.registry.nextId = l.fleet.registry.nextId)
    (hplace : ∀ handle, l'.fleet.registry.place? handle = l.fleet.registry.place? handle)
    (hleft : l'.fleet.left ⊆ l.fleet.left) : l'.Sound where
  numbered := by rw [hgiven, hnext, h.numbered]
  attached := by
    rw [hnext]
    exact Nat.le_trans h.attached hattaches
  place handle socket := by rw [hplace, hgiven, htaken, h.place]
  taken handle hhandle := by
    rw [hnext]
    exact h.taken handle (htaken ▸ hhandle)
  left entry hentry := by
    rw [htaken, hgiven]
    exact h.left entry (hleft hentry)

theorem happens (h : l.Sound) (e : Happening) : (l.step (.happens e)).Sound :=
  h.of_same rfl rfl (Nat.le_refl _) (nextId_happen ..) (place?_happen _ e) (left_happen _ e)

/-- A call that neither gives a handle nor takes one. -/
theorem call_of_same (h : l.Sound) {c : Call} (hgiven : given? (c, (l.fleet.perform c).1) = none)
    (htaken : taken? (c, (l.fleet.perform c).1) = none)
    (hnext : (l.fleet.perform c).2.registry.nextId = l.fleet.registry.nextId)
    (hplace : ∀ handle,
      (l.fleet.perform c).2.registry.place? handle = l.fleet.registry.place? handle)
    (hleft : (l.fleet.perform c).2.left ⊆ l.fleet.left) : (l.step (.call c)).Sound := by
  refine h.of_same ?_ ?_ ?_ hnext hplace hleft
  · rw [given_call, hgiven, Option.toList_none, List.append_nil]
  · rw [taken_call, htaken, Option.toList_none, List.append_nil]
  · rw [attaches_call]
    exact Nat.le_add_right ..

/-- A call that is refused and leaves the registry as it is. -/
theorem call_of_error (h : l.Sound) {c : Call} {e : Error}
    (herror : (l.fleet.perform c).1 = .error e)
    (hregistry : (l.fleet.perform c).2.registry = l.fleet.registry)
    (hleft : (l.fleet.perform c).2.left = l.fleet.left) : (l.step (.call c)).Sound := by
  refine h.call_of_same ?_ ?_ (by rw [hregistry]) (fun _ => by rw [hregistry])
    (hleft ▸ List.Subset.refl _)
  · rw [herror]
    cases c <;> rfl
  · rw [herror]
    cases c <;> rfl

theorem attach (h : l.Sound) (socket : Nat) : (l.step (.call (.attach socket))).Sound := by
  generalize hattach : Device.attach l.fleet.registry.nextId socket l.fleet.registry.config
    (l.fleet.lines socket) = attached
  obtain ⟨e | d, line⟩ := attached
  · have hperform := perform_attach_of_error hattach
    exact h.call_of_error (congrArg Prod.fst hperform) (by rw [hperform]; rfl)
      (by rw [hperform]; rfl)
  · obtain ⟨hid, hsocket⟩ := Device.of_attach hattach
    have hperform := perform_attach_of_ok hattach
    have hgiven := l.given_call (.attach socket)
    have htaken := l.taken_call (.attach socket)
    have hattaches := l.attaches_call (.attach socket)
    rw [hperform] at hgiven htaken
    simp only [given?, taken?, Option.toList_some, Option.toList_none, List.append_nil]
      at hgiven htaken
    have hfleet : (l.step (.call (.attach socket))).fleet =
        { l.fleet.setLine socket line with registry := { l.fleet.registry with
            nextId := l.fleet.registry.nextId + 1
            devices := l.fleet.registry.devices ++ [d] } } := congrArg Prod.snd hperform
    -- the new handle has not been given before
    have hfree : l.fleet.registry.place? l.fleet.registry.nextId = none := by
      cases hplace : l.fleet.registry.place? l.fleet.registry.nextId with
      | none => rfl
      | some socket' =>
        exact absurd (h.lt_of_given ((h.place _ _).1 hplace).1) (Nat.lt_irrefl _)
    refine ⟨?_, ?_, fun handle socket' => ?_, fun handle hhandle => ?_, fun entry hentry => ?_⟩
    · rw [hgiven, hfleet, List.map_append, h.numbered]
      exact List.range_succ.symm
    · rw [hfleet, hattaches]
      exact Nat.succ_le_succ h.attached
    · rw [hgiven, htaken, hfleet, Registry.place?_append, hid, hsocket]
      by_cases hhandle : handle = l.fleet.registry.nextId
      · subst hhandle
        rw [hfree, Option.none_or, if_pos rfl]
        constructor
        · rintro ⟨⟩
          exact ⟨List.mem_append_right _ (List.mem_singleton_self _),
            fun hmem => absurd (h.taken _ hmem) (Nat.lt_irrefl _)⟩
        · rintro ⟨hmem, -⟩
          rcases List.mem_append.1 hmem with hold | hnew
          · exact absurd (h.lt_of_given hold) (Nat.lt_irrefl _)
          · cases List.mem_singleton.1 hnew
            rfl
      · rw [if_neg (Ne.symm hhandle), Option.or_none, h.place]
        refine and_congr_left' ⟨List.mem_append_left _, fun hmem => ?_⟩
        rcases List.mem_append.1 hmem with hold | hnew
        · exact hold
        · cases List.mem_singleton.1 hnew
          exact absurd rfl hhandle
    · rw [hfleet]
      exact Nat.lt_succ_of_lt (h.taken handle (htaken ▸ hhandle))
    · rw [hgiven, htaken]
      rw [hfleet] at hentry
      obtain ⟨hasked, handle, hhandle, hmem⟩ := h.left entry hentry
      exact ⟨hasked, handle, hhandle, List.mem_append_left _ hmem⟩

theorem ask (h : l.Sound) (handle : Nat) (r : Request) :
    (l.step (.call (.ask handle r))).Sound := by
  cases hfind : l.fleet.registry.find? handle with
  | none =>
    have hperform := perform_ask_of_none hfind r
    exact h.call_of_error (congrArg Prod.fst hperform) (by rw [hperform]) (by rw [hperform])
  | some d =>
    have hanswers := (l.fleet.console d).answersFor_ask r
    have hperform := perform_ask_of_find? hfind r
    refine h.call_of_same rfl rfl ?_ ?_ ?_ <;> rw [hperform]
    · rfl
    · exact fun _ => place?_putBack hfind hanswers.id hanswers.socket _
    · exact List.Subset.refl _

theorem detach (h : l.Sound) (handle : Nat) (meanwhile : PerSlot (List LineMove)) :
    (l.step (.call (.detach handle meanwhile))).Sound := by
  cases hfind : l.fleet.registry.find? handle with
  | none =>
    have hperform := perform_detach_of_none hfind meanwhile
    exact h.call_of_error (congrArg Prod.fst hperform) (by rw [hperform]) (by rw [hperform])
  | some d =>
    have hperform := perform_detach_of_find? hfind meanwhile
    have hgiven := l.given_call (.detach handle meanwhile)
    have htaken := l.taken_call (.detach handle meanwhile)
    have hattaches := l.attaches_call (.detach handle meanwhile)
    rw [hperform] at hgiven htaken
    simp only [given?, taken?, Option.toList_some, Option.toList_none, List.append_nil]
      at hgiven htaken
    have hfleet := congrArg Prod.snd hperform
    obtain ⟨hplaced, -⟩ := (h.place handle d.socket).1 (Registry.place?_of_find? hfind)
    refine ⟨?_, ?_, fun other socket => ?_, fun other hother => ?_, fun entry hentry => ?_⟩
    · rw [hgiven, Logbook.step, hfleet]
      exact h.numbered
    · rw [hattaches, Logbook.step, hfleet]
      exact h.attached
    · rw [hgiven, htaken, Logbook.step, hfleet]
      show Registry.place? { l.fleet.registry with devices := _ } other = _ ↔ _
      rw [Registry.place?_filter]
      by_cases hother : other = handle
      · simp [hother]
      · rw [if_neg hother, h.place, List.mem_append, List.mem_singleton, or_iff_left hother]
    · rw [Logbook.step, hfleet]
      rcases List.mem_append.1 (htaken ▸ hother) with hold | hnew
      · exact h.taken other hold
      · cases List.mem_singleton.1 hnew
        exact h.lt_of_given hplaced
    · rw [hgiven, htaken]
      rw [Logbook.step, hfleet] at hentry
      rcases List.mem_append.1 hentry with hold | hnew
      · obtain ⟨hasked, other, hother, hmem⟩ := h.left entry hold
        exact ⟨hasked, other, List.mem_append_left _ hother, hmem⟩
      · obtain ⟨t, ht, rfl⟩ := List.mem_map.1 hnew
        obtain ⟨i, hi⟩ := mem_running.1 ht
        exact ⟨(Station.running_shutdown _ _ hi).1, handle,
          List.mem_append_right _ (List.mem_singleton_self _), hplaced⟩

theorem step (h : l.Sound) (s : Step) : (l.step s).Sound := by
  cases s with
  | call c =>
    cases c with
    | attach socket => exact h.attach socket
    | detach handle meanwhile => exact h.detach handle meanwhile
    | ask handle r => exact h.ask handle r
  | happens e => exact h.happens e

theorem run (h : l.Sound) (steps : List Step) : (l.run steps).Sound := by
  induction steps generalizing l with
  | nil => exact h
  | cons s rest ih => exact ih (h.step s)

/-- No two displays are on one socket. -/
theorem eq_of_socket (hsockets : l.sockets.Nodup) {handle other socket : Nat}
    (hgiven : (handle, socket) ∈ l.given) (hother : (other, socket) ∈ l.given) :
    handle = other :=
  congrArg Prod.fst (List.inj_on_of_nodup_map hsockets hgiven hother rfl)

theorem apart (h : l.Sound) (hsockets : l.sockets.Nodup)
    (hfind : l.fleet.registry.find? handle = some d) : l.fleet.Apart handle d.socket := by
  intro other e hother he hsame
  obtain ⟨hgiven, -⟩ := (h.place _ _).1 (Registry.place?_of_find? hfind)
  obtain ⟨hgiven', -⟩ := (h.place _ _).1 (Registry.place?_of_find? he)
  exact hother (eq_of_socket hsockets (hsame ▸ hgiven') hgiven)

end Sound

theorem given_prefix_step (l : Logbook) (s : Step) : l.given <+: (l.step s).given := by
  cases s with
  | call c =>
    rw [given_call]
    exact List.prefix_append ..
  | happens e => exact List.prefix_refl _

theorem given_prefix_run (l : Logbook) (steps : List Step) : l.given <+: (l.run steps).given := by
  induction steps generalizing l with
  | nil => exact List.prefix_refl _
  | cons s rest ih => exact (l.given_prefix_step s).trans (ih _)

theorem nodup_of_run (steps : List Step) (h : (l.run steps).sockets.Nodup) : l.sockets.Nodup :=
  h.sublist ((l.given_prefix_run steps).sublist.map Prod.snd)

/-! ### Sockets whose displays are gone -/

/-- The display on a socket was detached. -/
def Vacated (l : Logbook) (socket : Nat) : Prop :=
  ∃ handle ∈ l.taken, (handle, socket) ∈ l.given

end Logbook

end Fleet

/-- An adapter that heeds requests to stop and has painted nothing since it was like `a`. -/
structure Adapter.Rests (a b : Adapter) : Prop where
  heeds : b.heedsCancel = true
  updates : b.updates = a.updates
  lastPacket : b.lastPacket = a.lastPacket

namespace Adapter.Rests

variable {a b c : Adapter}

theorem refl (ha : a.heedsCancel = true) : a.Rests a := ⟨ha, rfl, rfl⟩

theorem trans (h : a.Rests b) (h' : b.Rests c) : a.Rests c :=
  ⟨h'.heeds, h'.updates.trans h.updates, h'.lastPacket.trans h.lastPacket⟩

theorem of_bulkSide (ha : a.heedsCancel = true) (h : b.bulkSide = a.bulkSide) : a.Rests b := by
  obtain ⟨hupdates, hrest⟩ := Prod.mk.inj h
  obtain ⟨hlast, hfaults⟩ := Prod.mk.inj hrest
  refine ⟨?_, hupdates, hlast⟩
  rw [heedsCancel, hfaults]
  exact ha

end Adapter.Rests

namespace Fleet

/-- The adapter on this socket heeds requests to stop after a step if it did so before. -/
def Step.heeds (socket : Nat) : Step → Bool
  | .happens (.faults other f) => other != socket || !f.ignoreCancel
  | _ => true

theorem adapter_setFlaky (f : Fleet) (socket other : Nat) (line : FlakyLine) :
    (f.setFlaky socket line).adapter other =
      if other = socket then line.adapter else f.adapter other := by
  rw [adapter, setFlaky, lines_setLine]
  split <;> rfl

theorem adapter_setAdapter (f : Fleet) (socket other : Nat) (a : Adapter) :
    (f.setAdapter socket a).adapter other = if other = socket then a else f.adapter other :=
  f.adapter_setFlaky ..

namespace Logbook

variable {l : Logbook} {handle socket : Nat} {d : Device}

namespace Vacated

theorem step (h : l.Vacated socket) (s : Step) : (l.step s).Vacated socket := by
  obtain ⟨handle, htaken, hgiven⟩ := h
  refine ⟨handle, ?_, (l.given_prefix_step s).subset hgiven⟩
  cases s with
  | call c =>
    rw [taken_call]
    exact List.mem_append_left _ htaken
  | happens e => exact htaken

theorem run (h : l.Vacated socket) (steps : List Step) : (l.run steps).Vacated socket := by
  induction steps generalizing l with
  | nil => exact h
  | cons s rest ih => exact ih (h.step s)

theorem socket_ne (h : l.Vacated socket) (hl : l.Sound) (hsockets : l.sockets.Nodup)
    (hfind : l.fleet.registry.find? handle = some d) : d.socket ≠ socket := by
  rintro rfl
  obtain ⟨other, htaken, hgiven⟩ := h
  obtain ⟨hplaced, hkept⟩ := (hl.place _ _).1 (Registry.place?_of_find? hfind)
  rw [Sound.eq_of_socket hsockets hplaced hgiven] at hkept
  exact hkept htaken

/-- Nothing more is left behind on the socket. -/
theorem left_step (h : l.Vacated socket) (hl : l.Sound) (hsockets : l.sockets.Nodup) (s : Step) :
    ∀ entry ∈ (l.step s).fleet.left, entry.1 = socket → entry ∈ l.fleet.left := by
  intro entry hentry hsocket
  cases s with
  | happens e => exact left_happen _ e hentry
  | call c =>
    cases c with
    | attach other =>
      generalize hattach : Device.attach l.fleet.registry.nextId other l.fleet.registry.config
        (l.fleet.lines other) = attached
      obtain ⟨e | d, line⟩ := attached
      · rwa [Logbook.step, perform_attach_of_error hattach] at hentry
      · rwa [Logbook.step, perform_attach_of_ok hattach] at hentry
    | detach handle meanwhile =>
      cases hfind : l.fleet.registry.find? handle with
      | none => rwa [Logbook.step, perform_detach_of_none hfind] at hentry
      | some d =>
        rw [Logbook.step, perform_detach_of_find? hfind] at hentry
        rcases List.mem_append.1 hentry with hold | hnew
        · exact hold
        · obtain ⟨t, -, rfl⟩ := List.mem_map.1 hnew
          exact (h.socket_ne hl hsockets hfind hsocket).elim
    | ask handle r =>
      cases hfind : l.fleet.registry.find? handle with
      | none => rwa [Logbook.step, perform_ask_of_none hfind] at hentry
      | some d => rwa [Logbook.step, perform_ask_of_find? hfind] at hentry

/-- The line stays as it is under what is done with the displays that are attached. -/
theorem lines_putBack (h : l.Vacated socket) (hl : l.Sound) (hsockets : l.sockets.Nodup)
    (hfind : l.fleet.registry.find? handle = some d) {c : FlakyConsole}
    (hsocket : c.device.socket = d.socket) :
    (l.fleet.putBack c).lines socket = l.fleet.lines socket := by
  rw [Fleet.lines_putBack, hsocket, if_neg (Ne.symm (h.socket_ne hl hsockets hfind))]

/-- A transfer that was left behind on the socket paints nothing. -/
theorem letGo (hl : l.Sound) (hheeds : (l.fleet.adapter socket).heedsCancel = true) (n : Nat)
    {go : Adapter → Transfer → Option (Except TransportError Nat) × Adapter}
    (hgo : ∀ a t, a.heedsCancel = true → t.token.isCancelled = true → (go a t).2 = a) :
    (l.fleet.letGo n go).adapter socket = l.fleet.adapter socket := by
  rw [Fleet.letGo]
  split
  · rfl
  next other t hentry =>
    obtain ⟨hasked, -⟩ := hl.left _ (List.mem_of_getElem? hentry)
    show (l.fleet.setAdapter other (go (l.fleet.adapter other) t).2).adapter socket = _
    rw [adapter_setAdapter]
    split
    next hother =>
      subst hother
      exact hgo _ t hheeds hasked
    next => rfl

/-- Nothing is painted on the socket, and unless it is tried to attach a display there the picture
stays. -/
theorem adapter_step (h : l.Vacated socket) (hl : l.Sound) (hsockets : l.sockets.Nodup)
    (hheeds : (l.fleet.adapter socket).heedsCancel = true) {s : Step}
    (hs : s.heeds socket = true) :
    (l.fleet.adapter socket).Rests ((l.step s).fleet.adapter socket) ∧
      (s ≠ .call (.attach socket) →
        ((l.step s).fleet.adapter socket).frame = (l.fleet.adapter socket).frame) := by
  have hsame : ∀ {f : Fleet}, f.lines socket = l.fleet.lines socket →
      (l.fleet.adapter socket).Rests (f.adapter socket) ∧
        (s ≠ .call (.attach socket) →
          (f.adapter socket).frame = (l.fleet.adapter socket).frame) := by
    intro f hlines
    have hadapter : f.adapter socket = l.fleet.adapter socket :=
      congrArg (fun line => line.line.adapter) hlines
    rw [hadapter]
    exact ⟨.refl hheeds, fun _ => rfl⟩
  cases s with
  | call c =>
    rw [Logbook.step]
    cases c with
    | attach other =>
      have hbulk := FlakyLine.bulkSide_attach l.fleet.registry.nextId other
        l.fleet.registry.config (l.fleet.lines other)
      have hlines : (l.fleet.perform (.attach other)).2.lines socket = if socket = other then
          (Device.attach l.fleet.registry.nextId other l.fleet.registry.config
            (l.fleet.lines other)).2 else l.fleet.lines socket := by
        generalize hattach : Device.attach l.fleet.registry.nextId other l.fleet.registry.config
          (l.fleet.lines other) = attached
        obtain ⟨e | d, line⟩ := attached
        · rw [perform_attach_of_error hattach, lines_setLine]
        · rw [perform_attach_of_ok hattach]
          exact l.fleet.lines_setLine ..
      by_cases hother : socket = other
      · subst hother
        rw [if_pos rfl] at hlines
        refine ⟨.of_bulkSide hheeds ?_, fun hne => absurd rfl hne⟩
        rw [adapter, hlines]
        exact hbulk
      · rw [if_neg hother] at hlines
        exact hsame hlines
    | detach handle meanwhile =>
      cases hfind : l.fleet.registry.find? handle with
      | none =>
        rw [perform_detach_of_none hfind]
        exact hsame rfl
      | some d =>
        rw [perform_detach_of_find? hfind]
        have hne : socket ≠ d.socket := Ne.symm (h.socket_ne hl hsockets hfind)
        exact hsame ((lines_abandon ..).trans (if_neg hne))
    | ask handle r =>
      cases hfind : l.fleet.registry.find? handle with
      | none =>
        rw [perform_ask_of_none hfind]
        exact hsame rfl
      | some d =>
        rw [perform_ask_of_find? hfind]
        exact hsame (h.lines_putBack hl hsockets hfind
          ((l.fleet.console d).answersFor_ask r).socket)
  | happens e =>
    rw [Logbook.step]
    cases e with
    | move handle m =>
      rw [happen]
      split
      · exact hsame rfl
      next d hfind => exact hsame (h.lines_putBack hl hsockets hfind rfl)
    | faults other faults =>
      rw [happen, adapter_setAdapter]
      split
      next hother =>
        subst hother
        have hfaults : faults.ignoreCancel = false := by simpa [Step.heeds] using hs
        exact ⟨⟨congrArg (!·) hfaults, rfl, rfl⟩, fun _ => rfl⟩
      next => exact ⟨.refl hheeds, fun _ => rfl⟩
    | setRegister other address value =>
      rw [happen, adapter_setAdapter]
      split
      next hother =>
        subst hother
        exact ⟨⟨hheeds, rfl, rfl⟩, fun _ => rfl⟩
      next => exact ⟨.refl hheeds, fun _ => rfl⟩
    | mishaps other list =>
      rw [happen, adapter_setFlaky]
      split
      next hother =>
        subst hother
        exact ⟨.refl hheeds, fun _ => rfl⟩
      next => exact ⟨.refl hheeds, fun _ => rfl⟩
    | leftCall n =>
      rw [happen, letGo hl hheeds n fun a t ha ht => by rw [ht, Adapter.bulkOut_of_stopped ha]]
      exact ⟨.refl hheeds, fun _ => rfl⟩
    | leftResume n =>
      rw [happen, letGo hl hheeds n fun a t ha ht => Adapter.resume_of_stopped ha _ ht]
      exact ⟨.refl hheeds, fun _ => rfl⟩

theorem left_run (h : l.Vacated socket) (hl : l.Sound) {steps : List Step}
    (hsockets : (l.run steps).sockets.Nodup) :
    ∀ entry ∈ (l.run steps).fleet.left, entry.1 = socket → entry ∈ l.fleet.left := by
  induction steps generalizing l with
  | nil => exact fun _ hentry _ => hentry
  | cons s rest ih =>
    intro entry hentry hsocket
    exact h.left_step hl (nodup_of_run (s :: rest) hsockets) s entry
      (ih (h.step s) (hl.step s) hsockets entry hentry hsocket) hsocket

theorem adapter_run (h : l.Vacated socket) (hl : l.Sound) {steps : List Step}
    (hsockets : (l.run steps).sockets.Nodup)
    (hheeds : (l.fleet.adapter socket).heedsCancel = true)
    (hsteps : ∀ s ∈ steps, s.heeds socket = true) :
    (l.fleet.adapter socket).Rests ((l.run steps).fleet.adapter socket) ∧
      (Step.call (.attach socket) ∉ steps →
        ((l.run steps).fleet.adapter socket).frame = (l.fleet.adapter socket).frame) := by
  induction steps generalizing l with
  | nil => exact ⟨.refl hheeds, fun _ => rfl⟩
  | cons s rest ih =>
    obtain ⟨hs, hrest⟩ := List.forall_mem_cons.1 hsteps
    obtain ⟨hrests, hframe⟩ :=
      h.adapter_step hl (nodup_of_run (s :: rest) hsockets) hheeds hs
    obtain ⟨hrests', hframe'⟩ := ih (h.step s) (hl.step s) hsockets hrests.heeds hrest
    refine ⟨hrests.trans hrests', fun hattach => ?_⟩
    have hne : s ≠ .call (.attach socket) := fun hs => hattach (hs ▸ List.mem_cons_self)
    exact (hframe' (hattach ∘ List.mem_cons_of_mem _)).trans (hframe hne)

end Vacated

/-- The handle was never given, or its display was detached. -/
def IsUnknown (l : Logbook) (handle : Nat) : Prop :=
  handle ∉ l.given.map Prod.fst ∨ handle ∈ l.taken

namespace Sound

theorem length_given (h : l.Sound) : l.given.length = l.fleet.registry.nextId := by
  rw [← List.length_map, h.numbered, List.length_range]

theorem find?_eq_none_iff (h : l.Sound) :
    l.fleet.registry.find? handle = none ↔ l.IsUnknown handle := by
  rw [IsUnknown, List.mem_map]
  constructor
  · intro hnone
    refine or_iff_not_imp_right.2 fun hkept => ?_
    rintro ⟨⟨_, socket⟩, hgiven, rfl⟩
    have hplace := (h.place _ _).2 ⟨hgiven, hkept⟩
    rw [Registry.place?, hnone] at hplace
    cases hplace
  · intro hunknown
    cases hfind : l.fleet.registry.find? handle with
    | none => rfl
    | some d =>
      obtain ⟨hgiven, hkept⟩ := (h.place _ _).1 (Registry.place?_of_find? hfind)
      exact hunknown.elim (fun hnever => absurd ⟨_, hgiven, rfl⟩ hnever)
        fun htaken => absurd htaken hkept

theorem find?_of_given (h : l.Sound) (hgiven : (handle, socket) ∈ l.given)
    (hkept : handle ∉ l.taken) :
    ∃ d, l.fleet.registry.find? handle = some d ∧ d.id = handle ∧ d.socket = socket := by
  have hplace := (h.place handle socket).2 ⟨hgiven, hkept⟩
  rw [Registry.place?, Option.map_eq_some_iff] at hplace
  obtain ⟨d, hfind, hsocket⟩ := hplace
  exact ⟨d, hfind, Registry.id_of_find? hfind, hsocket⟩

/-- An attach fails and leaves the registry as it is, or gives the next handle. -/
theorem perform_attach (h : l.Sound) (socket : Nat) :
    let r := l.fleet.perform (.attach socket)
    (∃ e, r.1 = .error e ∧ r.2.registry = l.fleet.registry) ∨
      ∃ d, r.1 = .ok (.attached l.given.length) ∧ r.2.registry.find? l.given.length = some d ∧
        d.socket = socket ∧
        ∀ other, other ≠ l.given.length →
          r.2.registry.find? other = l.fleet.registry.find? other := by
  intro r
  generalize hattach : Device.attach l.fleet.registry.nextId socket l.fleet.registry.config
    (l.fleet.lines socket) = attached
  obtain ⟨e | d, line⟩ := attached
  · have hperform : r = _ := perform_attach_of_error hattach
    rw [hperform]
    exact .inl ⟨e, rfl, rfl⟩
  · obtain ⟨hid, hsocket⟩ := Device.of_attach hattach
    have hperform : r = _ := perform_attach_of_ok hattach
    have hfree : l.fleet.registry.find? l.fleet.registry.nextId = none := by
      rw [h.find?_eq_none_iff, IsUnknown, h.numbered, List.mem_range]
      exact .inl (Nat.lt_irrefl _)
    have hfind : ∀ other, r.2.registry.find? other =
        (l.fleet.registry.find? other).or (if d.id = other then some d else none) := by
      rw [hperform]
      exact Registry.find?_append _ d _
    rw [h.length_given]
    refine .inr ⟨d, congrArg Prod.fst hperform, ?_, hsocket, fun other hother => ?_⟩
    · rw [hfind, hfree, if_pos hid, Option.none_or]
    · rw [hfind, hid, if_neg (Ne.symm hother), Option.or_none]

/-- Only an unknown handle gets the answer that it is unknown. -/
theorem perform_ask_iff (h : l.Sound) (r : Request) :
    (l.fleet.perform (.ask handle r)).1 = .error (.unknownDevice handle) ↔
      l.IsUnknown handle := by
  rw [← h.find?_eq_none_iff]
  constructor
  · intro hanswer
    cases hfind : l.fleet.registry.find? handle with
    | none => rfl
    | some d =>
      rw [perform_ask_of_find? hfind] at hanswer
      exact absurd hanswer ((((l.fleet.console d).answersFor_ask r).map _).known handle)
  · intro hnone
    rw [perform_ask_of_none hnone]

theorem perform_detach_iff (h : l.Sound) (meanwhile : PerSlot (List LineMove)) :
    (l.fleet.perform (.detach handle meanwhile)).1 = .error (.unknownDevice handle) ↔
      l.IsUnknown handle := by
  rw [← h.find?_eq_none_iff]
  constructor
  · intro hanswer
    cases hfind : l.fleet.registry.find? handle with
    | none => rfl
    | some d =>
      rw [perform_detach_of_find? hfind] at hanswer
      cases hanswer
  · intro hnone
    rw [perform_detach_of_none hnone]

/-- What is left behind by a detach was running on its socket, and is asked to stop. -/
theorem left_detach (hfind : l.fleet.registry.find? handle = some d)
    (meanwhile : PerSlot (List LineMove)) :
    ∃ left, (l.fleet.perform (.detach handle meanwhile)).2.left = l.fleet.left ++ left ∧
      ∀ entry ∈ left, entry.1 = d.socket ∧ entry.2.token.isCancelled = true ∧
        ∃ i t, (d.scheduler.slot i).running? = some t ∧ entry.2.packet = t.packet := by
  refine ⟨_, congrArg (·.2.left) (perform_detach_of_find? hfind meanwhile), fun entry hentry => ?_⟩
  obtain ⟨t', ht', rfl⟩ := List.mem_map.1 hentry
  obtain ⟨i, hi⟩ := mem_running.1 ht'
  obtain ⟨hasked, t, ht, hpacket⟩ := Station.running_shutdown _ _ hi
  exact ⟨rfl, hasked, i, t, ht, hpacket⟩

theorem vacated_detach (h : l.Sound) (hfind : l.fleet.registry.find? handle = some d)
    (meanwhile : PerSlot (List LineMove)) :
    (l.step (.call (.detach handle meanwhile))).Vacated d.socket := by
  have htaken := l.taken_call (.detach handle meanwhile)
  rw [perform_detach_of_find? hfind] at htaken
  refine ⟨handle, ?_, (l.given_prefix_step _).subset
    ((h.place _ _).1 (Registry.place?_of_find? hfind)).1⟩
  rw [htaken]
  exact List.mem_append_right _ (List.mem_singleton_self _)

/-- Nothing is painted while a display is detached. -/
theorem adapter_detach (hfind : l.fleet.registry.find? handle = some d)
    {meanwhile : PerSlot (List LineMove)}
    (hheeds : (l.fleet.adapter d.socket).heedsCancel = true)
    (hmoves : ∀ i, ∀ m ∈ meanwhile.get i, m.heeds = true) :
    let after := (l.fleet.perform (.detach handle meanwhile)).2.adapter d.socket
    (l.fleet.adapter d.socket).Rests after ∧ after.frame = (l.fleet.adapter d.socket).frame := by
  intro after
  obtain ⟨faults, hadapter, hheeds'⟩ :=
    Station.adapter_shutdown (l.fleet.console d).station meanwhile hheeds hmoves
  have hafter : after = ((l.fleet.console d).station.shutdown meanwhile).adapter := by
    show (l.fleet.perform (.detach handle meanwhile)).2.adapter d.socket = _
    rw [perform_detach_of_find? hfind]
    exact congrArg (fun line => line.line.adapter) ((lines_abandon ..).trans (if_pos rfl))
  rw [hafter]
  refine ⟨⟨hheeds', ?_, ?_⟩, ?_⟩ <;> rw [hadapter] <;> rfl

/-- From a detach on, no display is on the socket, nothing more is left behind there, and an adapter
that heeds requests to stop paints nothing. -/
theorem after_detach (h : l.Sound) (hsockets : l.sockets.Nodup)
    (hfind : l.fleet.registry.find? handle = some d) (meanwhile : PerSlot (List LineMove))
    {left : List (Nat × Transfer)}
    (hleft : (l.fleet.perform (.detach handle meanwhile)).2.left = l.fleet.left ++ left)
    {after : List Step} {k : Logbook}
    (hk : k = (l.step (.call (.detach handle meanwhile))).run after) (hnodup : k.sockets.Nodup) :
    (∀ other e, k.fleet.registry.find? other = some e → e.socket ≠ d.socket) ∧
      (∀ entry ∈ k.fleet.left, entry.1 = d.socket → entry ∈ left) ∧
      ((l.fleet.adapter d.socket).heedsCancel = true →
        (∀ i, ∀ m ∈ meanwhile.get i, m.heeds = true) →
        (∀ s ∈ after, s.heeds d.socket = true) →
        (l.fleet.adapter d.socket).Rests (k.fleet.adapter d.socket) ∧
          (.call (.attach d.socket) ∉ after →
            (k.fleet.adapter d.socket).frame = (l.fleet.adapter d.socket).frame)) := by
  subst hk
  have hnext := h.step (.call (.detach handle meanwhile))
  have hvacated := h.vacated_detach hfind meanwhile
  refine ⟨fun other e he => ?_, fun entry hentry hsocket => ?_, fun hheeds hmoves hafter => ?_⟩
  · exact (hvacated.run after).socket_ne (hnext.run after) hnodup he
  · have hmem := hvacated.left_run hnext hnodup entry hentry hsocket
    rw [Logbook.step, hleft] at hmem
    refine (List.mem_append.1 hmem).resolve_left fun hold => ?_
    -- what was left behind before comes from other sockets
    obtain ⟨-, other, htaken, hgiven⟩ := h.left entry hold
    obtain ⟨hplaced, hkept⟩ := (h.place _ _).1 (Registry.place?_of_find? hfind)
    rw [eq_of_socket hsockets hplaced (hsocket ▸ hgiven)] at hkept
    exact hkept htaken
  · obtain ⟨hrests, hframe⟩ := adapter_detach hfind hheeds hmoves
    obtain ⟨hrests', hframe'⟩ := hvacated.adapter_run hnext hnodup hrests.heeds hafter
    exact ⟨hrests.trans hrests', fun hattach => (hframe' hattach).trans hframe⟩

end Sound

/-- Whatever is done with the displays of a registry, attached and detached and attached again, and
whatever goes wrong on their lines, as long as no two of them are on one socket: attaches give the
handles 0, 1, 2 and so on, at most one for each try, and one that fails leaves the registry as it
is. A handle is answered to be unknown exactly if it was never given or its display was detached,
and then nothing happens. Otherwise the display that it was given for is asked, and the others do
not notice. A detach takes away this display and no other. All that it leaves behind on the line are
transfers that were running and have been asked to stop, and to these nothing is added; and if the
adapter heeds such requests it paints nothing from then on. -/
theorem handles_run (config : Config) (lines : Nat → RecordedLine FlakyLine) (steps : List Step)
    (hsockets : ((start config lines).run steps).sockets.Nodup) :
    let l := (start config lines).run steps
    let f := l.fleet
    (l.given.map Prod.fst = List.range l.given.length ∧ l.given.length ≤ l.attaches) ∧
    (∀ socket, let r := f.perform (.attach socket)
      (∃ e, r.1 = .error e ∧ r.2.registry = f.registry) ∨
        ∃ d, r.1 = .ok (.attached l.given.length) ∧ r.2.registry.find? l.given.length = some d ∧
          d.socket = socket ∧
          ∀ other, other ≠ l.given.length → r.2.registry.find? other = f.registry.find? other) ∧
    (∀ handle,
      (∀ request, (f.perform (.ask handle request)).1 = .error (.unknownDevice handle) ↔
        l.IsUnknown handle) ∧
      (∀ meanwhile, (f.perform (.detach handle meanwhile)).1 = .error (.unknownDevice handle) ↔
        l.IsUnknown handle) ∧
      (l.IsUnknown handle → (∀ request, (f.perform (.ask handle request)).2 = f) ∧
        ∀ meanwhile, (f.perform (.detach handle meanwhile)).2 = f)) ∧
    ∀ handle socket, (handle, socket) ∈ l.given → handle ∉ l.taken →
      ∃ d, f.registry.find? handle = some d ∧ d.id = handle ∧
        d.name = "ms912x-" ++ toString handle ∧ d.socket = socket ∧
        (∀ request,
          let asked := (f.console d).ask request
          let r := f.perform (.ask handle request)
          r.1 = asked.1.map .display ∧ r.2.registry.find? handle = some asked.2.device ∧
            r.2.lines socket = asked.2.line ∧ f.LeavesOthers r.2 handle) ∧
        (∀ m, f.LeavesOthers (f.happen (.move handle m)) handle) ∧
        ∀ meanwhile, let r := f.perform (.detach handle meanwhile)
          r.1 = .ok .detached ∧ r.2.registry.find? handle = none ∧ f.LeavesOthers r.2 handle ∧
            ∃ left, r.2.left = f.left ++ left ∧
              (∀ entry ∈ left, entry.1 = socket ∧ entry.2.token.isCancelled = true ∧
                ∃ i t, (d.scheduler.slot i).running? = some t ∧ entry.2.packet = t.packet) ∧
              ∀ after, let k := (l.step (.call (.detach handle meanwhile))).run after
                k.sockets.Nodup →
                  (∀ other e, k.fleet.registry.find? other = some e → e.socket ≠ socket) ∧
                  (∀ entry ∈ k.fleet.left, entry.1 = socket → entry ∈ left) ∧
                  ((f.adapter socket).heedsCancel = true →
                    (∀ i, ∀ m ∈ meanwhile.get i, m.heeds = true) →
                    (∀ s ∈ after, s.heeds socket = true) →
                    (f.adapter socket).Rests (k.fleet.adapter socket) ∧
                      (.call (.attach socket) ∉ after →
                        (k.fleet.adapter socket).frame = (f.adapter socket).frame)) := by
  intro l f
  have h : l.Sound := (sound_start config lines).run steps
  refine ⟨⟨?_, ?_⟩, h.perform_attach, fun handle => ⟨h.perform_ask_iff, h.perform_detach_iff,
    fun hunknown => ?_⟩, fun handle socket hgiven hkept => ?_⟩
  · rw [h.length_given]
    exact h.numbered
  · rw [h.length_given]
    exact h.attached
  · have hnone := h.find?_eq_none_iff.2 hunknown
    exact ⟨fun request => congrArg Prod.snd (perform_ask_of_none hnone request),
      fun meanwhile => congrArg Prod.snd (perform_detach_of_none hnone meanwhile)⟩
  · obtain ⟨d, hfind, hid, rfl⟩ := h.find?_of_given hgiven hkept
    have hapart := h.apart hsockets hfind
    refine ⟨d, hfind, hid, by rw [Device.name, hid], rfl, fun request => ?_,
      leavesOthers_move hfind hapart, fun meanwhile => ?_⟩
    · intro asked r
      have hanswers := (f.console d).answersFor_ask request
      have hperform : r = (asked.1.map .display, f.putBack asked.2) :=
        perform_ask_of_find? hfind request
      refine ⟨congrArg Prod.fst hperform, ?_, ?_, leavesOthers_ask hfind hapart request⟩
      · rw [hperform]
        exact (find?_putBack hfind hanswers.id handle).trans (if_pos rfl)
      · rw [hperform]
        exact (Fleet.lines_putBack ..).trans (if_pos hanswers.socket.symm)
    · intro r
      have hperform : r = _ := perform_detach_of_find? hfind meanwhile
      obtain ⟨left, hleft, hentries⟩ := Sound.left_detach hfind meanwhile
      refine ⟨congrArg Prod.fst hperform, ?_, leavesOthers_detach hfind hapart meanwhile, left,
        hleft, hentries, fun after => h.after_detach hsockets hfind meanwhile hleft rfl⟩
      rw [hperform]
      exact (Registry.find?_filter ..).trans (if_pos rfl)

/-- The first attach fails, two more succeed, and the first of the two displays sends a frame that
stalls. -/
def stalledFirst : List Step :=
  [.happens (.faults 1 { control := some .stall }), .call (.attach 1), .happens (.faults 1 {}),
    .call (.attach 0), .call (.attach 1), .happens (.faults 0 { stalled := true }),
    .call (.ask 0 (.submit (.black 16 1) ⟨0, 0, 16, 1⟩ .zero [])),
    .happens (.move 0 (.call .first))]

/-- The stall ends, and the transfer goes on. -/
def goesOn : List Step := [.happens (.faults 0 {}), .happens (.leftResume 0)]

theorem handles_run_stalledFirst :
    let l := (start .oneColumn fun _ => ⟨{}, []⟩).run stalledFirst
    let k := (l.step (.call (.detach 0 ⟨[], []⟩))).run goesOn
    l.given = [(0, 0), (1, 1)] ∧ l.attaches = 3 ∧
      (l.fleet.perform (.ask 2 .look)).1 = .error (.unknownDevice 2) ∧
      (l.fleet.perform (.detach 0 ⟨[], []⟩)).2.left.length = 1 ∧
      (l.fleet.adapter 0).Rests (k.fleet.adapter 0) := by
  intro l k
  have hgiven : l.given = [(0, 0), (1, 1)] := by decide +kernel
  have hkgiven : k.given = [(0, 0), (1, 1)] := by decide +kernel
  have htaken : l.taken = [] := by decide +kernel
  have hsockets : l.sockets.Nodup := by
    rw [sockets, hgiven]
    decide
  have hksockets : k.sockets.Nodup := by
    rw [sockets, hkgiven]
    decide
  obtain ⟨-, -, hunknown, hknown⟩ :=
    handles_run .oneColumn (fun _ => ⟨{}, []⟩) stalledFirst hsockets
  obtain ⟨d, -, -, -, -, -, -, hdetach⟩ :=
    hknown 0 0 (show (0, 0) ∈ l.given from hgiven ▸ List.mem_cons_self)
      (show 0 ∉ l.taken from htaken ▸ List.not_mem_nil)
  obtain ⟨-, -, -, left, -, -, hafter⟩ := hdetach ⟨[], []⟩
  obtain ⟨-, -, hrests⟩ := hafter goesOn hksockets
  refine ⟨hgiven, by decide +kernel, ?_, by decide +kernel, ?_⟩
  · refine ((hunknown 2).1 .look).2 (.inl ?_)
    show 2 ∉ l.given.map Prod.fst
    rw [hgiven]
    decide
  · exact (hrests (by decide +kernel) (by rintro (_ | _) m ⟨⟩) (by decide)).1

end Logbook

end Fleet

end UsbDisplay
