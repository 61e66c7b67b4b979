import Vussa.Lib.Run
import Vussa.Lib.Unique
import Vussa.Model.Types

/-!
Coalesced password verifications (`verify_password_coalesced` of `auth.rs`). A caller looks its key
up in the map of flights and joins the flight it finds, or inserts a new one and spawns its task,
all under one lock. The task waits for a permit, verifies, sends its outcome through the watch
channel of the flight, and removes the key from the map. Callers poll the channel, and may be
dropped.

SHA-256, the parser of encoded hashes and Argon2 are parameters.

* `Credentials`, `verificationKey`, `Distinct`: what a caller gives, its key, and what is assumed of
  the digest and the hashes;
* `Flight`, `Caller`, `Act`, `step`: the tasks, the callers and their moves, in any order;
* `Sound`, `Sound.step`: the entries of the map are the flights under way, and each caller is on a
  flight of its own password and hash;
* `coalesced_sound`: **one entry a key, no outcome of other credentials, no entry taken out by
  another flight, and an empty map once no call is under way**.
-/

namespace Vussa.Flights

open Run Table

/-! ### Keys -/

/-- The arguments of a call. -/
structure Credentials where
  userId : Uuid
  password : String
  encoded : String
  deriving DecidableEq

/-- The sixteen bytes of an identifier. -/
def uuidBytes (id : Uuid) : List UInt8 :=
  (List.range 16).map fun i => UInt8.ofNat ((id : ℕ) / 256 ^ (15 - i))

/-- `as_bytes` of a text. -/
def textBytes (text : String) : List UInt8 := text.toByteArray.data.toList

/-- What `verification_key` feeds to the digest. -/
def Credentials.bytes (c : Credentials) : List UInt8 :=
  uuidBytes c.userId ++ textBytes c.encoded ++ textBytes c.password

/-- What the code calls: SHA-256, the parser of encoded hashes, and Argon2. -/
structure Crypto (κ η : Type) where
  sha256 : List UInt8 → κ
  passwordHash : String → Option η
  argon2 : String → η → Bool

variable {κ η : Type}

/-- `verification_key`. -/
def verificationKey (crypto : Crypto κ η) (c : Credentials) : κ := crypto.sha256 c.bytes

/-- `verify_password`. -/
def verifyPassword (crypto : Crypto κ η) (password encoded : String) : Bool :=
  ((crypto.passwordHash encoded).map fun hash => crypto.argon2 password hash).getD false

lemma textBytes_injective : Function.Injective textBytes := by
  intro s t h
  have hdata : s.toByteArray.data = t.toByteArray.data := Array.toList_inj.mp h
  exact String.toByteArray_inj.mp (ByteArray.ext hdata)

lemma length_uuidBytes (id : Uuid) : (uuidBytes id).length = 16 := by
  rw [uuidBytes, List.length_map, List.length_range]

/-- The bytes determine the password and the hash, if the hashes have one length. -/
lemma eq_of_bytes_eq {c d : Credentials} (h : c.bytes = d.bytes)
    (hlength : (textBytes c.encoded).length = (textBytes d.encoded).length) :
    c.password = d.password ∧ c.encoded = d.encoded := by
  rw [Credentials.bytes, Credentials.bytes, List.append_assoc, List.append_assoc] at h
  obtain ⟨-, hrest⟩ := List.append_inj h (by rw [length_uuidBytes, length_uuidBytes])
  obtain ⟨hencoded, hpassword⟩ := List.append_inj hrest hlength
  exact ⟨textBytes_injective hpassword, textBytes_injective hencoded⟩

/-- The digest tells the calls apart, and their hashes have one length. -/
structure Distinct (crypto : Crypto κ η) (calls : Set Credentials) : Prop where
  digest : ∀ c ∈ calls, ∀ d ∈ calls,
    crypto.sha256 c.bytes = crypto.sha256 d.bytes → c.bytes = d.bytes
  length : ∀ c ∈ calls, ∀ d ∈ calls,
    (textBytes c.encoded).length = (textBytes d.encoded).length

lemma Distinct.eq_of_key_eq {crypto : Crypto κ η} {calls : Set Credentials}
    (h : Distinct crypto calls) {c d : Credentials} (hc : c ∈ calls) (hd : d ∈ calls)
    (hkey : verificationKey crypto c = verificationKey crypto d) :
    c.password = d.password ∧ c.encoded = d.encoded :=
  eq_of_bytes_eq (h.digest c hc d hd hkey) (h.length c hc d hd)

/-! ### Flights and callers -/

/-- `VerificationOutcome`. -/
inductive VerificationOutcome where
  | verified (value : Bool) | overloaded | unavailable
  deriving DecidableEq

/-- Where the task of a flight is. -/
inductive TaskStage where
  | acquiring | verifying | sending (outcome : VerificationOutcome) | removing | ended
  deriving DecidableEq

/-- The task of a flight with what it has captured, and the value of its watch channel. -/
structure Flight (κ : Type) where
  key : κ
  password : String
  encoded : String
  value : Option VerificationOutcome := none
  stage : TaskStage := .acquiring

namespace Flight

/-- `acquire_owned` with its timeout. -/
def acquire (permit : Bool) (f : Flight κ) : Flight κ :=
  match f.stage with
  | .acquiring => { f with stage := if permit then .verifying else .sending .overloaded }
  | _ => f

/-- `spawn_blocking`, joined or not. -/
def verify (crypto : Crypto κ η) (joined : Bool) (f : Flight κ) : Flight κ :=
  match f.stage with
  | .verifying =>
      { f with stage := .sending (if joined
          then .verified (verifyPassword crypto f.password f.encoded) else .unavailable) }
  | _ => f

/-- `sender.send`, which leaves the value alone when no receiver is left. -/
def send (received : Bool) (f : Flight κ) : Flight κ :=
  match f.stage with
  | .sending outcome =>
      { f with value := if received then some outcome else f.value, stage := .removing }
  | _ => f

/-- What a caller reads off the channel: an outcome, or the end of all senders. -/
def answer (f : Flight κ) : Option (Except AppError Bool) :=
  match f.value with
  | some (.verified value) => some (.ok value)
  | some .overloaded => some (.error (.tooManyRequests "authentication service is busy"))
  | some .unavailable =>
      some (.error ⟨.serviceUnavailable, "authentication service unavailable"⟩)
  | none =>
      if f.stage = .ended then
        some (.error ⟨.serviceUnavailable, "authentication service unavailable"⟩)
      else none

end Flight

/-- Where a caller is; its future can be dropped while it waits. -/
inductive CallStage where
  | waiting | returned (result : Except AppError Bool) | dropped

/-- A caller, and the flight it has subscribed to. -/
structure Caller where
  credentials : Credentials
  flight : ℕ
  stage : CallStage := .waiting

namespace Caller

def isWaiting (c : Caller) : Bool :=
  match c.stage with
  | .waiting => true
  | .returned _ | .dropped => false

/-- One turn of the loop. -/
def poll (answer : Option (Except AppError Bool)) (c : Caller) : Caller :=
  match answer with
  | some result => if c.isWaiting then { c with stage := .returned result } else c
  | none => c

def drop (c : Caller) : Caller := if c.isWaiting then { c with stage := .dropped } else c

end Caller

/-! ### Runs -/

/-- `password_verification_flights` with the numbers of the flights, the flights ever started, and
the callers. -/
structure State (κ : Type) where
  flights : List (κ × ℕ) := []
  started : List (Flight κ) := []
  callers : List Caller := []

namespace State

variable [DecidableEq κ]

/-- The part under the lock, with the spawn that follows it. -/
def call (crypto : Crypto κ η) (s : State κ) (c : Credentials) : State κ :=
  match s.flights.find? fun e => e.1 = verificationKey crypto c with
  | some e => { s with callers := s.callers ++ [{ credentials := c, flight := e.2 }] }
  | none =>
      { flights := s.flights ++ [(verificationKey crypto c, s.started.length)]
        started := s.started ++
          [{ key := verificationKey crypto c, password := c.password, encoded := c.encoded }]
        callers := s.callers ++ [{ credentials := c, flight := s.started.length }] }

/-- The task `i` takes a step. -/
def onFlight (s : State κ) (i : ℕ) (g : Flight κ → Flight κ) : State κ :=
  { s with started := s.started.modify i g }

/-- The caller `i` takes a step. -/
def onCaller (s : State κ) (i : ℕ) (g : Caller → Caller) : State κ :=
  { s with callers := s.callers.modify i g }

/-- A receiver of the flight is left. -/
def received (s : State κ) (i : ℕ) : Bool := s.callers.any fun c => c.isWaiting && c.flight == i

/-- `flights.lock().await.remove(&key)`, and the end of the task. -/
def remove (s : State κ) (i : ℕ) : State κ :=
  match s.started[i]? with
  | some f =>
      if f.stage = .removing then
        { s with flights := s.flights.filter fun e => e.1 ≠ f.key }.onFlight i fun f =>
          { f with stage := .ended }
      else s
  | none => s

/-- A call is under way while its caller waits or the task of its flight has steps left. -/
def UnderWay (s : State κ) (c : Caller) : Prop :=
  c.isWaiting ∨ ∃ f ∈ s.started[c.flight]?, f.stage ≠ .ended

instance (s : State κ) (c : Caller) : Decidable (s.UnderWay c) :=
  inferInstanceAs (Decidable (_ ∨ ∃ f ∈ s.started[c.flight]?, f.stage ≠ .ended))

end State

/-- A call, the steps of the task `i`, and those of the caller `i`. -/
inductive Act where
  | call (c : Credentials)
  | acquire (i : ℕ) (permit : Bool)
  | verify (i : ℕ) (joined : Bool)
  | send (i : ℕ)
  | remove (i : ℕ)
  | poll (i : ℕ)
  | drop (i : ℕ)

def step [DecidableEq κ] (crypto : Crypto κ η) (s : State κ) : Act → State κ
  | .call c => s.call crypto c
  | .acquire i permit => s.onFlight i (Flight.acquire permit)
  | .verify i joined => s.onFlight i (Flight.verify crypto joined)
  | .send i => s.onFlight i (Flight.send (s.received i))
  | .remove i => s.remove i
  | .poll i =>
      s.onCaller i fun c => c.poll (s.started[c.flight]?.bind Flight.answer)
  | .drop i => s.onCaller i Caller.drop

/-! ### Sound flights -/

section Sound

variable (crypto : Crypto κ η) (calls : Set Credentials)

/-- A flight is that of a call, and an outcome it has is that of its own password and hash. -/
structure Flight.Sound (f : Flight κ) : Prop where
  caller : ∃ c ∈ calls,
    f.key = verificationKey crypto c ∧ f.password = c.password ∧ f.encoded = c.encoded
  outcome : ∀ b, f.value = some (.verified b) ∨ f.stage = .sending (.verified b) →
    b = verifyPassword crypto f.password f.encoded

/-- A caller is on a flight of its own password and hash, and so is what it has returned. -/
structure Caller.Sound (started : List (Flight κ)) (c : Caller) : Prop where
  called : c.credentials ∈ calls
  flight : ∃ f ∈ started[c.flight]?,
    f.password = c.credentials.password ∧ f.encoded = c.credentials.encoded
  returned : ∀ b, c.stage = .returned (.ok b) →
    b = verifyPassword crypto c.credentials.password c.credentials.encoded

/-- The map holds the flights under way and nothing else, each flight was started by a call, and the
flights and the callers are sound. -/
structure Sound (s : State κ) : Prop where
  unique : Unique Prod.fst s.flights
  entry : ∀ e ∈ s.flights, ∃ f ∈ s.started[e.2]?, f.key = e.1 ∧ f.stage ≠ .ended
  listed : ∀ (i : ℕ), ∀ f ∈ s.started[i]?, f.stage ≠ .ended → (f.key, i) ∈ s.flights
  flight : ∀ (i : ℕ), ∀ f ∈ s.started[i]?, Flight.Sound crypto calls f
  caller : ∀ c ∈ s.callers, c.Sound crypto calls s.started
  joined : ∀ (i : ℕ), ∀ f ∈ s.started[i]?, ∃ c ∈ s.callers, c.flight = i

end Sound

variable {crypto : Crypto κ η} {calls : Set Credentials} {s : State κ}

/-- What a step of a task leaves alone. -/
structure Flight.Same (f f' : Flight κ) : Prop where
  key : f'.key = f.key
  password : f'.password = f.password
  encoded : f'.encoded = f.encoded

/-- A member of a list with one place changed. -/
lemma mem_modify_getElem? {α : Type} {l : List α} {i j : ℕ} {g : α → α} {a : α}
    (h : a ∈ (l.modify i g)[j]?) : (j = i ∧ ∃ b ∈ l[i]?, a = g b) ∨ (j ≠ i ∧ a ∈ l[j]?) := by
  rcases eq_or_ne i j with rfl | hne
  · rw [List.getElem?_modify_eq] at h
    obtain ⟨b, hb, rfl⟩ := Option.map_eq_some_iff.mp h
    exact Or.inl ⟨rfl, b, hb, rfl⟩
  · rw [List.getElem?_modify_ne g l hne] at h
    exact Or.inr ⟨hne.symm, h⟩

/-- What becomes of a member of a list with one place changed. -/
lemma modify_getElem?_of_mem {α : Type} {R : α → α → Prop} (hrefl : ∀ a, R a a) {g : α → α}
    (hg : ∀ a, R a (g a)) (i : ℕ) {l : List α} {j : ℕ} {a : α} (h : a ∈ l[j]?) :
    ∃ b ∈ (l.modify i g)[j]?, R a b := by
  rcases eq_or_ne i j with rfl | hne
  · rw [List.getElem?_modify_eq]
    exact ⟨g a, Option.mem_map_of_mem g h, hg a⟩
  · rw [List.getElem?_modify_ne g l hne]
    exact ⟨a, h, hrefl a⟩

/-- A caller stays sound while its flight keeps its password and hash. -/
lemma Caller.Sound.mono {started started' : List (Flight κ)} {c : Caller}
    (h : c.Sound crypto calls started)
    (hsame : ∀ (i : ℕ), ∀ f ∈ started[i]?, ∃ f' ∈ started'[i]?, Flight.Same f f') :
    c.Sound crypto calls started' := by
  obtain ⟨f, hf, hpassword, hencoded⟩ := h.flight
  obtain ⟨f', hf', hkept⟩ := hsame c.flight f hf
  exact ⟨h.called, ⟨f', hf', by rw [hkept.password, hpassword], by rw [hkept.encoded, hencoded]⟩,
    h.returned⟩

lemma getElem?_append_of_mem {α : Type} {l l' : List α} {a : α} {i : ℕ} (h : a ∈ l[i]?) :
    a ∈ (l ++ l')[i]? := by
  obtain ⟨hi, -⟩ := List.getElem?_eq_some_iff.mp h
  rw [List.getElem?_append_left hi]
  exact h

/-- A member of a list with one more. -/
lemma mem_append_getElem? {α : Type} {l : List α} {a b : α} {i : ℕ} (h : b ∈ (l ++ [a])[i]?) :
    b ∈ l[i]? ∨ (i = l.length ∧ b = a) := by
  rw [List.getElem?_append] at h
  split_ifs at h with hi
  · exact Or.inl h
  · rw [List.getElem?_singleton] at h
    split_ifs at h with hzero
    · exact Or.inr ⟨by omega, (Option.some.inj h).symm⟩
    · exact absurd h (Option.not_mem_none b)

/-! #### The tasks -/

namespace Flight

/-- A step of a task before its last one. -/
structure Advances (crypto : Crypto κ η) (f f' : Flight κ) : Prop extends Flight.Same f f' where
  ended : f'.stage = .ended ↔ f.stage = .ended
  outcome : ∀ b, f'.value = some (.verified b) ∨ f'.stage = .sending (.verified b) →
    (f.value = some (.verified b) ∨ f.stage = .sending (.verified b)) ∨
      b = verifyPassword crypto f.password f.encoded

lemma Advances.refl (f : Flight κ) : f.Advances crypto f where
  key := rfl
  password := rfl
  encoded := rfl
  ended := Iff.rfl
  outcome _ h := Or.inl h

lemma acquire_advances (permit : Bool) (f : Flight κ) : f.Advances crypto (f.acquire permit) := by
  rw [acquire]
  split
  · rename_i hstage
    refine ⟨⟨rfl, rfl, rfl⟩, ?_, fun b h => ?_⟩
    · rw [hstage]
      cases permit <;> simp
    · rcases h with hvalue | hsending
      · exact Or.inl (Or.inl hvalue)
      · cases permit <;> simp at hsending
  · exact Advances.refl f

lemma verify_advances (joined : Bool) (f : Flight κ) :
    f.Advances crypto (f.verify crypto joined) := by
  rw [verify]
  split
  · rename_i hstage
    refine ⟨⟨rfl, rfl, rfl⟩, by simp [hstage], fun b h => ?_⟩
    rcases h with hvalue | hsending
    · exact Or.inl (Or.inl hvalue)
    · cases joined with
      | true =>
          have hb : verifyPassword crypto f.password f.encoded = b := by simpa using hsending
          exact Or.inr hb.symm
      | false => simp at hsending
  · exact Advances.refl f

lemma send_advances (received : Bool) (f : Flight κ) : f.Advances crypto (f.send received) := by
  rw [send]
  split
  · rename_i outcome hstage
    refine ⟨⟨rfl, rfl, rfl⟩, by simp [hstage], fun b h => ?_⟩
    rcases h with hvalue | hsending
    · cases received with
      | true =>
          have houtcome : outcome = .verified b := by simpa using hvalue
          exact Or.inl (Or.inr (by rw [hstage, houtcome]))
      | false => exact Or.inl (Or.inl (by simpa using hvalue))
    · simp at hsending
  · exact Advances.refl f

lemma Sound.same {f f' : Flight κ} (h : f.Sound crypto calls) (hsame : f.Same f')
    (houtcome : ∀ b, f'.value = some (.verified b) ∨ f'.stage = .sending (.verified b) →
      b = verifyPassword crypto f.password f.encoded) : f'.Sound crypto calls := by
  obtain ⟨c, hc, hkey, hpassword, hencoded⟩ := h.caller
  refine ⟨⟨c, hc, by rw [hsame.key, hkey], by rw [hsame.password, hpassword],
    by rw [hsame.encoded, hencoded]⟩, fun b hb => ?_⟩
  rw [hsame.password, hsame.encoded]
  exact houtcome b hb

lemma Sound.advance {f f' : Flight κ} (h : f.Sound crypto calls) (hstep : f.Advances crypto f') :
    f'.Sound crypto calls :=
  h.same hstep.toSame fun b hb => (hstep.outcome b hb).elim (h.outcome b) id

/-- What a caller reads as verified is that of the password and the hash of the flight. -/
lemma Sound.answer {f : Flight κ} (h : f.Sound crypto calls) {b : Bool}
    (hanswer : f.answer = some (.ok b)) : b = verifyPassword crypto f.password f.encoded := by
  refine h.outcome b (Or.inl ?_)
  rw [Flight.answer] at hanswer
  split at hanswer
  · rename_i value hvalue
    rw [hvalue, Except.ok.inj (Option.some.inj hanswer)]
  · cases hanswer
  · cases hanswer
  · split_ifs at hanswer
    cases hanswer

end Flight

/-! #### The map -/

namespace Sound

lemma init : Sound crypto calls ({} : State κ) where
  unique := unique_nil
  entry e h := absurd h List.not_mem_nil
  listed i f h := absurd h (by simp)
  flight i f h := absurd h (by simp)
  caller c h := absurd h List.not_mem_nil
  joined i f h := absurd h (by simp)

/-- An entry and the flight it leads to. -/
lemma key_eq (h : Sound crypto calls s) {e : κ × ℕ} (he : e ∈ s.flights) {f : Flight κ}
    (hf : f ∈ s.started[e.2]?) : f.key = e.1 := by
  obtain ⟨f', hf', hkey, -⟩ := h.entry e he
  obtain rfl : f' = f := Option.mem_unique hf' hf
  exact hkey

/-- A task takes a step before its last one. -/
lemma onFlight (h : Sound crypto calls s) (i : ℕ) {g : Flight κ → Flight κ}
    (hg : ∀ f, Flight.Advances crypto f (g f)) : Sound crypto calls (s.onFlight i g) := by
  have hforward : ∀ (j : ℕ), ∀ f ∈ s.started[j]?, ∃ f' ∈ (s.started.modify i g)[j]?,
      Flight.Advances crypto f f' :=
    fun j f hf => modify_getElem?_of_mem Flight.Advances.refl hg i hf
  have hback : ∀ (j : ℕ), ∀ f' ∈ (s.started.modify i g)[j]?, ∃ f ∈ s.started[j]?,
      Flight.Advances crypto f f' := by
    intro j f' hf'
    rcases mem_modify_getElem? hf' with ⟨rfl, f, hf, rfl⟩ | ⟨-, hf⟩
    · exact ⟨f, hf, hg f⟩
    · exact ⟨f', hf, Flight.Advances.refl f'⟩
  refine ⟨h.unique, fun e he => ?_, fun j f' hf' hstage => ?_, fun j f' hf' => ?_, fun c hc => ?_,
    fun j f' hf' => ?_⟩
  · obtain ⟨f, hf, hkey, hstage⟩ := h.entry e he
    obtain ⟨f', hf', hstep⟩ := hforward e.2 f hf
    exact ⟨f', hf', by rw [hstep.key, hkey], fun hended => hstage (hstep.ended.mp hended)⟩
  · obtain ⟨f, hf, hstep⟩ := hback j f' hf'
    rw [hstep.key]
    exact h.listed j f hf fun hended => hstage (hstep.ended.mpr hended)
  · obtain ⟨f, hf, hstep⟩ := hback j f' hf'
    exact (h.flight j f hf).advance hstep
  · refine (h.caller c hc).mono fun j f hf => ?_
    obtain ⟨f', hf', hstep⟩ := hforward j f hf
    exact ⟨f', hf', hstep.toSame⟩
  · obtain ⟨f, hf, -⟩ := hback j f' hf'
    exact h.joined j f hf

/-- A caller takes a step. -/
lemma onCaller (h : Sound crypto calls s) (i : ℕ) {g : Caller → Caller}
    (hflight : ∀ c, (g c).flight = c.flight)
    (hg : ∀ c, c.Sound crypto calls s.started → (g c).Sound crypto calls s.started) :
    Sound crypto calls (s.onCaller i g) := by
  refine ⟨h.unique, h.entry, h.listed, h.flight, fun c hc => ?_, fun j f hf => ?_⟩
  · obtain ⟨j, hj⟩ := List.mem_iff_getElem?.mp hc
    rcases mem_modify_getElem? hj with ⟨-, c', hc', rfl⟩ | ⟨-, hc'⟩
    · exact hg c' (h.caller c' (List.mem_of_getElem? hc'))
    · exact h.caller c (List.mem_of_getElem? hc')
  · obtain ⟨c, hc, hjoined⟩ := h.joined j f hf
    obtain ⟨k, hk⟩ := List.mem_iff_getElem?.mp hc
    obtain ⟨c', hc', hsame⟩ := modify_getElem?_of_mem (R := fun c c' => c'.flight = c.flight)
      (fun _ => rfl) hflight i hk
    exact ⟨c', List.mem_of_getElem? hc', by rw [hsame, hjoined]⟩

/-- A caller reads its channel. -/
lemma poll (h : Sound crypto calls s) {c : Caller} (hc : c.Sound crypto calls s.started) :
    (c.poll (s.started[c.flight]?.bind Flight.answer)).Sound crypto calls s.started := by
  cases hanswer : s.started[c.flight]?.bind Flight.answer with
  | none => exact hc
  | some result =>
      rw [Caller.poll]
      split_ifs
      · refine ⟨hc.called, hc.flight, fun b hb => ?_⟩
        obtain rfl : result = .ok b := CallStage.returned.inj hb
        obtain ⟨f, hf, hpassword, hencoded⟩ := hc.flight
        rw [show s.started[c.flight]? = some f from hf, Option.bind_some] at hanswer
        rw [← hpassword, ← hencoded]
        exact (h.flight c.flight f hf).answer hanswer
      · exact hc

/-- The call that finds its key joins a flight of its own password and hash. -/
lemma join (h : Sound crypto calls s) (hcalls : Distinct crypto calls) {c : Credentials}
    (hc : c ∈ calls) {e : κ × ℕ} (he : e ∈ s.flights) (hkey : e.1 = verificationKey crypto c) :
    Sound crypto calls
      { s with callers := s.callers ++ [{ credentials := c, flight := e.2 }] } := by
  refine ⟨h.unique, h.entry, h.listed, h.flight, fun c' hc' => ?_, fun i f hf => ?_⟩
  · rcases List.mem_append.mp hc' with hold | hnew
    · exact h.caller c' hold
    · rw [List.mem_singleton.mp hnew]
      obtain ⟨f, hf, hfkey, -⟩ := h.entry e he
      obtain ⟨d, hd, hdkey, hpassword, hencoded⟩ := (h.flight e.2 f hf).caller
      have hsame : verificationKey crypto d = verificationKey crypto c := by
        rw [← hdkey, hfkey, hkey]
      obtain ⟨hpassword', hencoded'⟩ := hcalls.eq_of_key_eq hd hc hsame
      exact ⟨hc, ⟨f, hf, by rw [hpassword, hpassword'], by rw [hencoded, hencoded']⟩,
        fun b hb => by cases hb⟩
  · obtain ⟨c', hc', hjoined⟩ := h.joined i f hf
    exact ⟨c', List.mem_append_left _ hc', hjoined⟩

/-- The call that does not find its key starts a flight. -/
lemma start (h : Sound crypto calls s) {c : Credentials} (hc : c ∈ calls)
    (hnew : ∀ e ∈ s.flights, e.1 ≠ verificationKey crypto c) :
    Sound crypto calls
      { flights := s.flights ++ [(verificationKey crypto c, s.started.length)]
        started := s.started ++
          [{ key := verificationKey crypto c, password := c.password, encoded := c.encoded }]
        callers := s.callers ++ [{ credentials := c, flight := s.started.length }] } := by
  refine ⟨h.unique.append hnew, fun e he => ?_, fun i f hf hstage => ?_, fun i f hf => ?_,
    fun c' hc' => ?_, fun i f hf => ?_⟩
  · rcases List.mem_append.mp he with hold | hlast
    · obtain ⟨f, hf, hkey⟩ := h.entry e hold
      exact ⟨f, getElem?_append_of_mem hf, hkey⟩
    · rw [List.mem_singleton.mp hlast]
      exact ⟨_, List.getElem?_concat_length, rfl, by simp⟩
  · rcases mem_append_getElem? hf with hold | ⟨rfl, rfl⟩
    · exact List.mem_append_left _ (h.listed i f hold hstage)
    · exact List.mem_append_right _ (List.mem_singleton_self _)
  · rcases mem_append_getElem? hf with hold | ⟨rfl, rfl⟩
    · exact h.flight i f hold
    · exact ⟨⟨c, hc, rfl, rfl, rfl⟩, fun b hb => by simp at hb⟩
  · rcases List.mem_append.mp hc' with hold | hlast
    · exact (h.caller c' hold).mono fun i f hf =>
        ⟨f, getElem?_append_of_mem hf, ⟨rfl, rfl, rfl⟩⟩
    · rw [List.mem_singleton.mp hlast]
      exact ⟨hc, ⟨_, List.getElem?_concat_length, rfl, rfl⟩, fun b hb => by cases hb⟩
  · rcases mem_append_getElem? hf with hold | ⟨rfl, -⟩
    · obtain ⟨c', hc', hjoined⟩ := h.joined i f hold
      exact ⟨c', List.mem_append_left _ hc', hjoined⟩
    · exact ⟨_, List.mem_append_right _ (List.mem_singleton_self _), rfl⟩

/-- **A task removes the entry of its own flight**, which is under its key. -/
lemma eq_of_key (h : Sound crypto calls s) {i : ℕ} {f : Flight κ} (hf : f ∈ s.started[i]?)
    (hstage : f.stage = .removing) {e : κ × ℕ} (he : e ∈ s.flights) :
    e.1 = f.key ↔ e.2 = i := by
  have hown : (f.key, i) ∈ s.flights := h.listed i f hf (by rw [hstage]; simp)
  constructor
  · intro hkey
    rw [h.unique.eq he hown hkey]
  · rintro rfl
    exact (h.key_eq he hf).symm

/-- The last step of a task. -/
lemma remove [DecidableEq κ] (h : Sound crypto calls s) (i : ℕ) :
    Sound crypto calls (s.remove i) := by
  rw [State.remove]
  split
  · rename_i f hf
    split_ifs with hstage
    · have hkept : ∀ (j : ℕ), ∀ f' ∈ s.started[j]?, ∃ f'' ∈
          (s.started.modify i fun f => { f with stage := .ended })[j]?, Flight.Same f' f'' :=
        fun j f' hf' => modify_getElem?_of_mem (fun _ => ⟨rfl, rfl, rfl⟩)
          (fun _ => ⟨rfl, rfl, rfl⟩) i hf'
      refine ⟨h.unique.filter _, fun e he => ?_, fun j f' hf' hne => ?_, fun j f' hf' => ?_,
        fun c hc => (h.caller c hc).mono hkept, fun j f' hf' => ?_⟩
      · obtain ⟨he, hkey⟩ := List.mem_filter.mp he
        have hother : i ≠ e.2 := fun heq =>
          of_decide_eq_true hkey ((h.eq_of_key hf hstage he).mpr heq.symm)
        obtain ⟨f', hf', hrest⟩ := h.entry e he
        refine ⟨f', ?_, hrest⟩
        rw [State.onFlight, List.getElem?_modify_ne _ _ hother]
        exact hf'
      · rcases mem_modify_getElem? hf' with ⟨-, f'', -, rfl⟩ | ⟨hother, hf'⟩
        · exact absurd rfl hne
        · have he := h.listed j f' hf' hne
          exact List.mem_filter.mpr ⟨he, decide_eq_true fun hkey =>
            hother ((h.eq_of_key hf hstage he).mp hkey)⟩
      · rcases mem_modify_getElem? hf' with ⟨-, f'', hf'', rfl⟩ | ⟨-, hf'⟩
        · refine (h.flight i f'' hf'').same ⟨rfl, rfl, rfl⟩ fun b hb => ?_
          exact (h.flight i f'' hf'').outcome b (hb.imp_right fun hstage => by cases hstage)
        · exact h.flight j f' hf'
      · rcases mem_modify_getElem? hf' with ⟨rfl, f'', hf'', -⟩ | ⟨-, hf'⟩
        · exact h.joined j f'' hf''
        · exact h.joined j f' hf'
    · exact h
  · exact h

/-- **Every step keeps the flights sound.** -/
theorem step [DecidableEq κ] (h : Sound crypto calls s) (hcalls : Distinct crypto calls) {a : Act}
    (ha : ∀ c, a = .call c → c ∈ calls) : Sound crypto calls (step crypto s a) := by
  cases a with
  | call c =>
      rw [Flights.step, State.call]
      split
      · rename_i e he
        have hfound := List.find?_some he
        have hkey : e.1 = verificationKey crypto c := of_decide_eq_true hfound
        exact h.join hcalls (ha c rfl) (List.mem_of_find?_eq_some he) hkey
      · rename_i hnone
        exact h.start (ha c rfl) fun e he hkey =>
          List.find?_eq_none.mp hnone e he (decide_eq_true hkey)
  | acquire i permit => exact h.onFlight i (Flight.acquire_advances permit)
  | verify i joined => exact h.onFlight i (Flight.verify_advances joined)
  | send i => exact h.onFlight i (Flight.send_advances (s.received i))
  | remove i => exact h.remove i
  | poll i =>
      refine h.onCaller i (fun c => ?_) fun c hc => h.poll hc
      cases s.started[c.flight]?.bind Flight.answer with
      | none => rfl
      | some result =>
          rw [Caller.poll]
          split_ifs <;> rfl
  | drop i =>
      refine h.onCaller i (fun c => ?_) fun c hc => ?_
      · rw [Caller.drop]
        split_ifs <;> rfl
      · rw [Caller.drop]
        split_ifs
        · exact ⟨hc.called, hc.flight, fun b hb => by cases hb⟩
        · exact hc

/-- **No entry outlives its task.** -/
lemma flights_eq_nil (h : Sound crypto calls s) (hquiet : ∀ c ∈ s.callers, ¬ s.UnderWay c) :
    s.flights = [] := by
  refine List.eq_nil_iff_forall_not_mem.mpr fun e he => ?_
  obtain ⟨f, hf, -, hstage⟩ := h.entry e he
  obtain ⟨c, hc, hjoined⟩ := h.joined e.2 f hf
  exact hquiet c hc (Or.inr ⟨f, hjoined ▸ hf, hstage⟩)

end Sound

/-! ### Every run -/

/-- The calls of a run. -/
def called (as : List Act) : Set Credentials := { c | Act.call c ∈ as }

/-- Only the task of its own flight takes an entry out of the map. -/
def RemovesOwn [DecidableEq κ] (crypto : Crypto κ η) (s : State κ) (a : Act) : Prop :=
  ∀ e ∈ s.flights, e ∉ (step crypto s a).flights → a = .remove e.2

/-- **A step takes no entry of another flight out of the map.** -/
lemma Sound.removesOwn [DecidableEq κ] (h : Sound crypto calls s) (a : Act) :
    RemovesOwn crypto s a := by
  intro e he hgone
  cases a with
  | call c =>
      refine absurd ?_ hgone
      rw [Flights.step, State.call]
      split
      · exact he
      · exact List.mem_append_left _ he
  | acquire i permit => exact absurd he hgone
  | verify i joined => exact absurd he hgone
  | send i => exact absurd he hgone
  | poll i => exact absurd he hgone
  | drop i => exact absurd he hgone
  | remove i =>
      rw [Flights.step, State.remove] at hgone
      split at hgone
      · rename_i f hf
        split_ifs at hgone with hstage
        · by_contra hother
          refine hgone (List.mem_filter.mpr ⟨he, decide_eq_true fun hkey => hother ?_⟩)
          rw [(h.eq_of_key hf hstage he).mp hkey]
        · exact absurd he hgone
      · exact absurd he hgone

/-- **Coalesced verifications over every run**: a key has at most one flight in the map, `Ok(b)` is
returned only where `b` is the verification of the caller's own password and hash, an entry is
taken out by the task of its own flight only, and the map is empty once no call is under way. -/
theorem coalesced_sound [DecidableEq κ] (crypto : Crypto κ η) (as : List Act)
    (hcalls : Distinct crypto (called as)) :
    Unique Prod.fst (final (step crypto) {} as).flights ∧
    (∀ c ∈ (final (step crypto) {} as).callers, ∀ b, c.stage = .returned (.ok b) →
      b = verifyPassword crypto c.credentials.password c.credentials.encoded) ∧
    Along (step crypto) (RemovesOwn crypto) {} as ∧
    ((∀ c ∈ (final (step crypto) {} as).callers, ¬ (final (step crypto) {} as).UnderWay c) →
      (final (step crypto) {} as).flights = []) := by
  have halong : Along (step crypto) (fun _ a => a ∈ as) {} as :=
    along_of_forall _ fun a ha => ha
  have hstep : ∀ s a, Sound crypto (called as) s → a ∈ as →
      Sound crypto (called as) (step crypto s a) :=
    fun s a hs ha => hs.step hcalls fun c hc => by rw [hc] at ha; exact ha
  have hsound : Sound crypto (called as) (final (step crypto) {} as) :=
    halong.invariant hstep Sound.init
  exact ⟨hsound.unique, fun c hc => (hsound.caller c hc).returned,
    halong.of_invariant hstep (fun s a hs _ => hs.removesOwn a) Sound.init,
    hsound.flights_eq_nil⟩

/-- Two passwords are tried on a hash that does not parse. -/
def sun : Credentials := ⟨5, "sun", "locked"⟩

def moon : Credentials := ⟨5, "moon", "locked"⟩

/-- The digests of the two calls. -/
def lockedOut : Crypto ℕ Unit where
  sha256 bytes :=
    if bytes = sun.bytes then
      80139134918291654852143530046995595871445442971420584985537599518419071657018
    else
      8710011112691096246082577594129895875466063159159302144066366391516720485742
  passwordHash _ := none
  argon2 _ _ := false

/-- A second caller joins the flight of the first after its outcome is sent, a third has its own,
and the first caller goes away. -/
def lateJoin : List Act :=
  [.call sun, .acquire 0 true, .call moon, .verify 0 true, .send 0, .call sun, .drop 0, .poll 2,
    .remove 0, .acquire 1 false, .send 1, .poll 1, .remove 1]

lemma lateJoin_distinct : Distinct lockedOut (called lateJoin) := by
  have hcalls : ∀ c ∈ called lateJoin, c = sun ∨ c = moon := by
    intro c hc
    have hcases : c = sun ∨ c = moon ∨ c = sun := by simpa [called, lateJoin] using hc
    tauto
  have hbytes : moon.bytes ≠ sun.bytes := by decide
  constructor
  · intro c hc d hd hdigest
    rcases hcalls c hc with rfl | rfl <;> rcases hcalls d hd with rfl | rfl <;>
      simp [lockedOut, hbytes] at hdigest ⊢
  · intro c hc d hd
    rcases hcalls c hc with rfl | rfl <;> rcases hcalls d hd with rfl | rfl <;> rfl

/-- All callers have been answered or have gone, both tasks have ended, and the map is empty. -/
theorem lateJoin_empties : (final (step lockedOut) {} lateJoin).flights = [] :=
  (coalesced_sound lockedOut lateJoin lateJoin_distinct).2.2.2 (by decide)

end Vussa.Flights
