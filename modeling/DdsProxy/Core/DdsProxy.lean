import Mathlib.Data.List.Basic

/-!
Construction of a `DdsProxy` (`DdsProxy.cpp`). After checking its configuration, the
constructor creates one participant per participant configuration through the participant
factory and adds each one to the participants database under the participant's id. The
database rejects an id it already holds, which the constructor reports as a
`ConfigurationException`.
-/

namespace DdsProxy.Core

abbrev ParticipantId := String

inductive ConstructionException where
  | configuration (msg : String)
  | initialization (msg : String)
  deriving DecidableEq, Repr

structure ParticipantConfiguration (σ : Type) where
  id : ParticipantId
  settings : σ
  deriving DecidableEq, Repr

structure DdsProxyConfiguration (κ σ : Type) where
  participantsConfigurations : List (κ × ParticipantConfiguration σ)
  deriving DecidableEq, Repr

structure InconsistencyException where
  deriving DecidableEq, Repr

structure ParticipantsDatabase (P : Type) where
  participants : List (ParticipantId × P)
  deriving DecidableEq, Repr

namespace ParticipantsDatabase

variable {P : Type}

def empty : ParticipantsDatabase P := ⟨[]⟩

/-- Modelled from the spec: `add_participant` registers a participant under an id not in
the database and raises `InconsistencyException` on a duplicate id ("If it is repeated it
will cause an exception", in `init_participants_`). -/
def addParticipant (db : ParticipantsDatabase P) (id : ParticipantId) (participant : P) :
    Except InconsistencyException (ParticipantsDatabase P) :=
  match db.participants.lookup id with
  | some _ => .error ⟨⟩
  | none => .ok ⟨(id, participant) :: db.participants⟩

def find (db : ParticipantsDatabase P) (id : ParticipantId) : Option P :=
  db.participants.lookup id

@[simp] theorem find_empty (id : ParticipantId) : (empty : ParticipantsDatabase P).find id = none :=
  rfl

theorem addParticipant_eq_ok {db db' : ParticipantsDatabase P} {id : ParticipantId}
    {participant : P} :
    db.addParticipant id participant = .ok db' ↔
      db.find id = none ∧ db' = ⟨(id, participant) :: db.participants⟩ := by
  cases h : db.find id <;> simp only [find] at h <;> simp [addParticipant, find, h, eq_comm]

theorem addParticipant_eq_error {db : ParticipantsDatabase P} {id : ParticipantId}
    {participant : P} {e : InconsistencyException} :
    db.addParticipant id participant = .error e ↔ (db.find id).isSome := by
  cases h : db.find id <;> simp only [find] at h <;> simp [addParticipant, find, h]

theorem find_cons (db : ParticipantsDatabase P) (id id' : ParticipantId) (participant : P) :
    (⟨(id, participant) :: db.participants⟩ : ParticipantsDatabase P).find id' =
      if id' = id then some participant else db.find id' := by
  simp only [find, List.lookup_cons]
  split <;> simp_all

end ParticipantsDatabase

section construction

variable {κ σ P : Type}
  (createParticipant : κ → ParticipantConfiguration σ → Except ConstructionException (Option P))
  (participantId : P → ParticipantId)

/-- `init_participants_`: creates each configured participant through the factory
(`participant_factory_.create_participant`, which may throw, and whose `nullptr` is an
`InitializationException`) and adds it to the database under its `id()`, turning the
database's `InconsistencyException` into a `ConfigurationException`. -/
def initParticipants :
    List (κ × ParticipantConfiguration σ) → ParticipantsDatabase P →
      Except ConstructionException (ParticipantsDatabase P)
  | [], db => .ok db
  | (kind, config) :: rest, db =>
      match createParticipant kind config with
      | .error e => .error e
      | .ok none => .error (.initialization ("Failed to create creating Participant " ++ config.id))
      | .ok (some newParticipant) =>
          match db.addParticipant (participantId newParticipant) newParticipant with
          | .error _ => .error (.configuration ("Participant ids must be unique. The id " ++
              participantId newParticipant ++ " is duplicated."))
          | .ok db' => initParticipants rest db'

structure DdsProxy (κ σ P : Type) where
  configuration : DdsProxyConfiguration κ σ
  participantsDatabase : ParticipantsDatabase P

/-- The constructor `DdsProxy(configuration)` up to the creation of its `DdsPipe`:
`is_valid` (not in the sources, so a parameter here) first, then `init_participants_` on
an empty database. -/
def DdsProxy.construct (isValid : DdsProxyConfiguration κ σ → Except String Unit)
    (configuration : DdsProxyConfiguration κ σ) : Except ConstructionException (DdsProxy κ σ P) :=
  match isValid configuration with
  | .error msg => .error (.configuration ("Configuration for DDS Proxy is invalid: " ++ msg))
  | .ok () =>
      match initParticipants createParticipant participantId
          configuration.participantsConfigurations .empty with
      | .error e => .error e
      | .ok db => .ok ⟨configuration, db⟩

variable {createParticipant participantId}

private theorem initParticipants_cons {kind : κ} {config : ParticipantConfiguration σ}
    {rest : List (κ × ParticipantConfiguration σ)} {db : ParticipantsDatabase P} {p : P}
    (hp : createParticipant kind config = .ok (some p)) (hid : participantId p = config.id) :
    initParticipants createParticipant participantId ((kind, config) :: rest) db =
      if (db.find config.id).isSome then
        .error (.configuration ("Participant ids must be unique. The id " ++ config.id ++
          " is duplicated."))
      else initParticipants createParticipant participantId rest
        ⟨(config.id, p) :: db.participants⟩ := by
  simp only [initParticipants, hp, hid]
  split
  · next h => rw [if_pos (ParticipantsDatabase.addParticipant_eq_error.mp h)]
  · next db' h =>
      obtain ⟨hnone, rfl⟩ := ParticipantsDatabase.addParticipant_eq_ok.mp h
      rw [if_neg (by simp [hnone])]

private theorem fresh_cons_iff {kind : κ} {config : ParticipantConfiguration σ}
    {rest : List (κ × ParticipantConfiguration σ)} {db : ParticipantsDatabase P} {p : P}
    (hnone : db.find config.id = none) :
    ((rest.map (·.2.id)).Nodup ∧
        ∀ kc ∈ rest, (⟨(config.id, p) :: db.participants⟩ : ParticipantsDatabase P).find kc.2.id = none) ↔
      (((kind, config) :: rest).map (·.2.id)).Nodup ∧
        ∀ kc ∈ (kind, config) :: rest, db.find kc.2.id = none := by
  simp only [ParticipantsDatabase.find_cons, List.map_cons, List.nodup_cons, List.mem_map,
    List.mem_cons, forall_eq_or_imp, hnone, true_and]
  constructor
  · rintro ⟨hnd, hrest⟩
    refine ⟨⟨?_, hnd⟩, fun kc hkc => ?_⟩
    · rintro ⟨kc, hkc, heq⟩
      simpa [heq] using hrest kc hkc
    · have h := hrest kc hkc
      split at h
      · cases h
      · exact h
  · rintro ⟨⟨hnotin, hnd⟩, hrest⟩
    refine ⟨hnd, fun kc hkc => ?_⟩
    rw [if_neg (fun heq => hnotin ⟨kc, hkc, heq⟩)]
    exact hrest kc hkc

theorem initParticipants_ok (configs : List (κ × ParticipantConfiguration σ))
    (hcreate : ∀ kc ∈ configs,
      ∃ p, createParticipant kc.1 kc.2 = .ok (some p) ∧ participantId p = kc.2.id)
    (db : ParticipantsDatabase P) (hnodup : (configs.map (·.2.id)).Nodup)
    (hfresh : ∀ kc ∈ configs, db.find kc.2.id = none) :
    ∃ db', initParticipants createParticipant participantId configs db = .ok db' ∧
      ∀ id p, db'.find id = some p ↔ db.find id = some p ∨
        ∃ kc ∈ configs, kc.2.id = id ∧ createParticipant kc.1 kc.2 = .ok (some p) := by
  induction configs generalizing db with
  | nil => exact ⟨db, rfl, by simp⟩
  | cons kc rest ih =>
      obtain ⟨kind, config⟩ := kc
      obtain ⟨p, hp, hid⟩ := hcreate _ (List.mem_cons_self _ _)
      have hnone : db.find config.id = none := hfresh _ (List.mem_cons_self _ _)
      have hrest : (rest.map (·.2.id)).Nodup ∧ ∀ kc ∈ rest,
          (⟨(config.id, p) :: db.participants⟩ : ParticipantsDatabase P).find kc.2.id = none :=
        (fresh_cons_iff hnone).mpr ⟨hnodup, hfresh⟩
      have hdistinct : ∀ kc ∈ rest, kc.2.id ≠ config.id := fun kc hkc heq =>
        (List.nodup_cons.mp hnodup).1 (List.mem_map.mpr ⟨kc, hkc, heq⟩)
      obtain ⟨db', hinit, hfind⟩ :=
        ih (fun kc hkc => hcreate kc (List.mem_cons_of_mem _ hkc)) _ hrest.1 hrest.2
      refine ⟨db', by rw [initParticipants_cons hp hid, if_neg (by simp [hnone]), hinit],
        fun id q => ?_⟩
      rw [hfind, ParticipantsDatabase.find_cons]
      simp only [List.mem_cons, or_and_right, exists_or, exists_eq_left]
      by_cases hi : id = config.id
      · subst hi
        have hnot : ¬ ∃ kc ∈ rest, kc.2.id = config.id ∧
            createParticipant kc.1 kc.2 = .ok (some q) :=
          fun ⟨kc, hkc, heq, _⟩ => hdistinct kc hkc heq
        simp [hnone, hp, hnot]
      · simp [hi, Ne.symm hi]

theorem initParticipants_error (configs : List (κ × ParticipantConfiguration σ))
    (hcreate : ∀ kc ∈ configs,
      ∃ p, createParticipant kc.1 kc.2 = .ok (some p) ∧ participantId p = kc.2.id)
    (db : ParticipantsDatabase P)
    (hdup : ¬ ((configs.map (·.2.id)).Nodup ∧ ∀ kc ∈ configs, db.find kc.2.id = none)) :
    ∃ kc ∈ configs, initParticipants createParticipant participantId configs db =
      .error (.configuration ("Participant ids must be unique. The id " ++ kc.2.id ++
        " is duplicated.")) := by
  induction configs generalizing db with
  | nil => simp at hdup
  | cons kc rest ih =>
      obtain ⟨kind, config⟩ := kc
      obtain ⟨p, hp, hid⟩ := hcreate _ (List.mem_cons_self _ _)
      rw [initParticipants_cons hp hid]
      split
      · exact ⟨_, List.mem_cons_self _ _, rfl⟩
      · next hsome =>
          have hnone : db.find config.id = none := by simpa using hsome
          obtain ⟨kc, hkc, herr⟩ := ih (fun kc hkc => hcreate kc (List.mem_cons_of_mem _ hkc)) _
            (fun h => hdup ((fresh_cons_iff (p := p) hnone).mp h))
          exact ⟨kc, List.mem_cons_of_mem _ hkc, herr⟩

theorem construct_of_isValid {isValid : DdsProxyConfiguration κ σ → Except String Unit}
    {configuration : DdsProxyConfiguration κ σ} (hvalid : isValid configuration = .ok ()) :
    DdsProxy.construct createParticipant participantId isValid configuration =
      (initParticipants createParticipant participantId
        configuration.participantsConfigurations .empty).map (⟨configuration, ·⟩) := by
  simp only [DdsProxy.construct, hvalid]
  cases initParticipants createParticipant participantId
    configuration.participantsConfigurations .empty <;> rfl

/-- Construction of a `DdsProxy` with a valid configuration, whose participants the
factory creates each with its configuration's id, for configurations in any number and
any order: it throws a `ConfigurationException` exactly when two configurations share an
id; otherwise the participants database maps exactly the configured ids, each to the
participant created from the configuration with that id. -/
theorem construct_throws_iff_duplicate_id
    (isValid : DdsProxyConfiguration κ σ → Except String Unit)
    (configuration : DdsProxyConfiguration κ σ) (hvalid : isValid configuration = .ok ())
    (hcreate : ∀ kc ∈ configuration.participantsConfigurations,
      ∃ p, createParticipant kc.1 kc.2 = .ok (some p) ∧ participantId p = kc.2.id) :
    ((∃ msg, DdsProxy.construct createParticipant participantId isValid configuration =
        .error (.configuration msg)) ↔
      ¬ (configuration.participantsConfigurations.map (·.2.id)).Nodup) ∧
    ((configuration.participantsConfigurations.map (·.2.id)).Nodup →
      ∃ proxy, DdsProxy.construct createParticipant participantId isValid configuration =
          .ok proxy ∧
        ∀ id p, proxy.participantsDatabase.find id = some p ↔
          ∃ kc ∈ configuration.participantsConfigurations, kc.2.id = id ∧
            createParticipant kc.1 kc.2 = .ok (some p)) := by
  rw [construct_of_isValid hvalid]
  by_cases hnodup : (configuration.participantsConfigurations.map (·.2.id)).Nodup
  · obtain ⟨db, hinit, hfind⟩ := initParticipants_ok _ hcreate .empty hnodup (by simp)
    refine ⟨by simp [hinit, Except.map, hnodup],
      fun _ => ⟨⟨configuration, db⟩, by simp [hinit, Except.map], ?_⟩⟩
    simpa using hfind
  · obtain ⟨kc, -, herr⟩ := initParticipants_error _ hcreate .empty (fun h => hnodup h.1)
    exact ⟨by simp [herr, Except.map, hnodup], fun h => absurd h hnodup⟩

theorem construct_two_participants :
    let configuration : DdsProxyConfiguration Unit Unit := ⟨[((), ⟨"p0", ()⟩), ((), ⟨"p1", ()⟩)]⟩
    let createParticipant : Unit → ParticipantConfiguration Unit →
      Except ConstructionException (Option String) := fun _ config => .ok (some config.id)
    (fun _ => .ok () : DdsProxyConfiguration Unit Unit → Except String Unit) configuration = .ok () ∧
      (∀ kc ∈ configuration.participantsConfigurations,
        ∃ p, createParticipant kc.1 kc.2 = .ok (some p) ∧ id p = kc.2.id) ∧
      (((∃ msg, DdsProxy.construct createParticipant id (fun _ => .ok ()) configuration =
          .error (.configuration msg)) ↔
        ¬ (configuration.participantsConfigurations.map (·.2.id)).Nodup) ∧
      ((configuration.participantsConfigurations.map (·.2.id)).Nodup →
        ∃ proxy, DdsProxy.construct createParticipant id (fun _ => .ok ()) configuration =
            .ok proxy ∧
          ∀ i p, proxy.participantsDatabase.find i = some p ↔
            ∃ kc ∈ configuration.participantsConfigurations, kc.2.id = i ∧
              createParticipant kc.1 kc.2 = .ok (some p))) :=
  ⟨rfl, fun kc _ => ⟨kc.2.id, rfl, rfl⟩,
    construct_throws_iff_duplicate_id _ _ rfl fun kc _ => ⟨kc.2.id, rfl, rfl⟩⟩

end construction

end DdsProxy.Core
