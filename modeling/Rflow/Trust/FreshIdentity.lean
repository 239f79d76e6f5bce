import Rflow.Trust.Identity

/-!
# The first identity of a device

A process that is left alone with no identity in place installs one, unless the two files differ by
their extensions alone: their temporary files would be the same file then.
-/

namespace Rflow

open Foundation

namespace IdentityStore

variable {belongs : Belongs} {paths : IdentityPaths} {files later : IdentityFiles} {process : Nat}
  {phase : IdentityPhase belongs} {progress : IdentityProgress belongs}
  {store next : IdentityStore belongs} {input : IdentityInput belongs}
  {outputs : List IdentityOutput}

/-- No operation fails, and nothing is cut short. -/
def Undisturbed : IdentityInput belongs → Prop
  | .proceed | .generated (.ok _) => True
  | _ => False

/-- Neither the files of the identity nor the temporary files of the process are there. -/
def Fresh (paths : IdentityPaths) (process : Nat) (files : IdentityFiles) : Prop :=
  ∀ role, files (paths.path role) = none ∧ files (paths.temporary process role) = none

/-- The temporary files are two files. -/
def Apart (paths : IdentityPaths) (process : Nat) : Prop :=
  paths.temporary process .privateKey ≠ paths.temporary process .certificate

/-- What comes of the process. -/
def Fate (paths : IdentityPaths) (process : Nat) (result : Outcome String Unit) : Prop :=
  result = .ok () ∧ Apart paths process ∨
    result = .err "create temporary identity file" ∧ ¬ Apart paths process

/-- How far a process gets that is left alone. -/
def Smooth (paths : IdentityPaths) (process : Nat) (files : IdentityFiles) :
    IdentityPhase belongs → Prop
  | .probing | .preparing | .generating | .creating .certificate _ => Fresh paths process files
  | .writing .certificate _ | .syncing .certificate _ | .creating .privateKey _ =>
      files (paths.temporary process .certificate) ≠ none ∧
        (Apart paths process → files (paths.temporary process .privateKey) = none)
  | .writing .privateKey _ | .syncing .privateKey _ | .restricting _ | .installingKey _ =>
      Apart paths process ∧ files (paths.temporary process .certificate) ≠ none ∧
        files (paths.temporary process .privateKey) ≠ none
  | .installingCertificate _ =>
      Apart paths process ∧ files (paths.temporary process .certificate) ≠ none
  | .cleaning _ result => Fate paths process result
  | .guarding _ | .removing _ | .securing | .rollingBack => False

def Goes (paths : IdentityPaths) (process : Nat) (files : IdentityFiles) :
    IdentityProgress belongs → Prop
  | .goes phase => Smooth paths process files phase
  | .ends result => Fate paths process result

/-- The two temporary files differ exactly when the paths differ in more than their extensions. -/
theorem apart_iff : Apart paths process ↔
    paths.certificate.directory ≠ paths.privateKey.directory ∨
      paths.certificate.stem ≠ paths.privateKey.stem := by
  simp only [Apart, IdentityPaths.temporary, IdentityPaths.path, IdentityPath.withExtension,
    ne_eq, IdentityPath.mk.injEq, and_true, not_and_or]
  exact or_congr (not_congr eq_comm) (not_congr eq_comm)

/-- The steps that are left to a process, at most. -/
def remaining : IdentityPhase belongs → Nat
  | .guarding _ => 18
  | .removing .certificate => 17
  | .removing .privateKey => 16
  | .probing => 15
  | .preparing => 14
  | .generating => 13
  | .creating .certificate _ => 12
  | .writing .certificate _ => 11
  | .syncing .certificate _ => 10
  | .creating .privateKey _ => 9
  | .writing .privateKey _ => 8
  | .syncing .privateKey _ => 7
  | .restricting _ => 6
  | .installingKey _ => 5
  | .installingCertificate _ => 4
  | .rollingBack => 3
  | .cleaning .certificate _ => 2
  | .cleaning .privateKey _ | .securing => 1

def left : IdentityProgress belongs → Nat
  | .goes phase => remaining phase
  | .ends _ => 0

@[simp]
theorem left_goes : left (.goes phase) = remaining phase := rfl

@[simp]
theorem left_ends (result : Outcome String Unit) :
    left (.ends result : IdentityProgress belongs) = 0 := rfl

@[simp]
theorem left_failed (error : String) : left (failed error : IdentityProgress belongs) = 2 := rfl

/-- Each operation brings a process nearer to its end. -/
theorem left_lt (advanced : advance paths process files phase = some (later, progress)) :
    left progress < remaining phase := by
  cases phase with
  | guarding force =>
      simp only [advance] at advanced
      split_ifs at advanced <;>
        obtain ⟨_, rfl⟩ := Prod.mk.inj (Option.some.inj advanced) <;>
        simp [remaining]
  | removing role =>
      cases role <;> obtain ⟨_, rfl⟩ := Prod.mk.inj (Option.some.inj advanced) <;>
        simp [remaining]
  | probing =>
      simp only [advance] at advanced
      split at advanced <;> obtain ⟨_, rfl⟩ := Prod.mk.inj (Option.some.inj advanced) <;>
        simp [remaining]
  | securing =>
      obtain ⟨_, _, same⟩ := Option.map_eq_some_iff.mp advanced
      obtain ⟨_, rfl⟩ := Prod.mk.inj same
      simp [remaining]
  | preparing =>
      obtain ⟨_, rfl⟩ := Prod.mk.inj (Option.some.inj advanced)
      simp [remaining]
  | generating => cases advanced
  | creating role pair =>
      simp only [advance] at advanced
      split at advanced <;> obtain ⟨_, rfl⟩ := Prod.mk.inj (Option.some.inj advanced) <;>
        cases role <;> simp [remaining]
  | writing role pair =>
      obtain ⟨_, _, same⟩ := Option.map_eq_some_iff.mp advanced
      obtain ⟨_, rfl⟩ := Prod.mk.inj same
      cases role <;> simp [remaining]
  | syncing role pair =>
      cases role <;> obtain ⟨_, rfl⟩ := Prod.mk.inj (Option.some.inj advanced) <;>
        simp [remaining]
  | restricting pair =>
      obtain ⟨_, _, same⟩ := Option.map_eq_some_iff.mp advanced
      obtain ⟨_, rfl⟩ := Prod.mk.inj same
      simp [remaining]
  | installingKey pair =>
      simp only [advance] at advanced
      split at advanced <;> obtain ⟨_, rfl⟩ := Prod.mk.inj (Option.some.inj advanced) <;>
        simp [remaining]
  | installingCertificate pair =>
      simp only [advance] at advanced
      split at advanced <;> obtain ⟨_, rfl⟩ := Prod.mk.inj (Option.some.inj advanced) <;>
        simp [remaining]
  | rollingBack =>
      obtain ⟨_, rfl⟩ := Prod.mk.inj (Option.some.inj advanced)
      simp [remaining]
  | cleaning role result =>
      cases role <;> obtain ⟨_, rfl⟩ := Prod.mk.inj (Option.some.inj advanced) <;>
        simp [remaining]

/-- Each operation goes as it must. -/
theorem advance_smooth (plain : Plain paths) (smooth : Smooth paths process files phase)
    (advanced : advance paths process files phase = some (later, progress)) :
    Goes paths process later progress := by
  cases phase with
  | guarding => exact smooth.elim
  | removing => exact smooth.elim
  | securing => exact smooth.elim
  | rollingBack => exact smooth.elim
  | generating => cases advanced
  | probing =>
      have noCertificate : files paths.certificate = none := (smooth .certificate).1
      have noKey : files paths.privateKey = none := (smooth .privateKey).1
      simp only [advance, noCertificate, noKey, Option.isSome_none] at advanced
      obtain ⟨rfl, rfl⟩ := Prod.mk.inj (Option.some.inj advanced)
      exact smooth
  | preparing =>
      obtain ⟨rfl, rfl⟩ := Prod.mk.inj (Option.some.inj advanced)
      exact smooth
  | creating role pair =>
      simp only [advance] at advanced
      split at advanced
      · obtain ⟨rfl, rfl⟩ := Prod.mk.inj (Option.some.inj advanced)
        obtain ⟨free, rfl⟩ := Files.create_eq_some ‹_›
        cases role with
        | certificate =>
            refine ⟨Files.put_ne_none, fun apart => ?_⟩
            exact (Files.put_other apart).trans (smooth .privateKey).2
        | privateKey =>
            obtain ⟨written, _⟩ := smooth
            have apart : Apart paths process := fun same => written (same ▸ free)
            exact ⟨apart, fun none => written ((Files.put_other apart.symm).symm.trans none),
              Files.put_ne_none⟩
      · obtain ⟨rfl, rfl⟩ := Prod.mk.inj (Option.some.inj advanced)
        have taken := Files.create_eq_none.mp ‹_›
        cases role with
        | certificate => exact absurd (smooth .certificate).2 taken
        | privateKey => exact Or.inr ⟨rfl, fun apart => taken (smooth.2 apart)⟩
  | writing role pair =>
      obtain ⟨file, stored, same⟩ := Option.map_eq_some_iff.mp advanced
      obtain ⟨rfl, rfl⟩ := Prod.mk.inj same
      cases role with
      | certificate =>
          refine ⟨Files.put_ne_none, fun apart => ?_⟩
          exact (Files.put_other apart).trans (smooth.2 apart)
      | privateKey =>
          obtain ⟨apart, certificate, _⟩ := smooth
          exact ⟨apart, fun none => certificate ((Files.put_other apart.symm).symm.trans none),
            Files.put_ne_none⟩
  | syncing role pair =>
      cases role <;> obtain ⟨rfl, rfl⟩ := Prod.mk.inj (Option.some.inj advanced) <;> exact smooth
  | restricting pair =>
      obtain ⟨file, stored, same⟩ := Option.map_eq_some_iff.mp advanced
      obtain ⟨rfl, rfl⟩ := Prod.mk.inj same
      obtain ⟨apart, certificate, _⟩ := smooth
      exact ⟨apart, fun none => certificate ((Files.put_other apart.symm).symm.trans none),
        Files.put_ne_none⟩
  | installingKey pair =>
      obtain ⟨apart, certificate, key⟩ := smooth
      simp only [advance] at advanced
      split at advanced
      · obtain ⟨rfl, rfl⟩ := Prod.mk.inj (Option.some.inj advanced)
        obtain ⟨file, stored, rfl⟩ := Files.rename_eq_some ‹_›
        refine ⟨apart, fun none => certificate ?_⟩
        rw [← none]
        exact ((Files.put_other (temporary_ne plain .certificate .privateKey)).trans
          (Files.remove_other apart.symm)).symm
      · exact absurd (Option.map_eq_none_iff.mp ‹_›) key
  | installingCertificate pair =>
      obtain ⟨apart, certificate⟩ := smooth
      simp only [advance] at advanced
      split at advanced
      · obtain ⟨rfl, rfl⟩ := Prod.mk.inj (Option.some.inj advanced)
        exact Or.inl ⟨rfl, apart⟩
      · exact absurd (Option.map_eq_none_iff.mp ‹_›) certificate
  | cleaning role result =>
      cases role <;> obtain ⟨rfl, rfl⟩ := Prod.mk.inj (Option.some.inj advanced) <;> exact smooth

/-- The steps that are left, at most. -/
def work (store : IdentityStore belongs) : Nat :=
  store.process.elim 0 fun current => remaining current.2

/-- A process that is left alone is on its way, or it has met its fate. -/
def Alone (paths : IdentityPaths) (process : Nat) (outputs : List IdentityOutput)
    (store : IdentityStore belongs) : Prop :=
  match store.process with
  | some (current, phase) =>
      current = process ∧ outputs = [] ∧ Smooth paths process store.files phase
  | none => ∃ result, outputs = [.ended result] ∧ Fate paths process result

theorem alone_continueWith (goes : Goes paths process files progress)
    (continued : continueWith process files progress = (outputs, next)) :
    Alone paths process outputs next := by
  cases progress with
  | goes phase =>
      obtain ⟨rfl, rfl⟩ := Prod.mk.inj continued
      exact ⟨rfl, rfl, goes⟩
  | ends result =>
      obtain ⟨rfl, rfl⟩ := Prod.mk.inj continued
      exact ⟨result, rfl, goes⟩

theorem work_continueWith (continued : continueWith process files progress = (outputs, next)) :
    next.work = left progress := by
  cases progress <;> obtain ⟨rfl, rfl⟩ := Prod.mk.inj continued <;> rfl

/-- What a step does that nothing disturbs. -/
theorem undisturbed_cases (own : Undisturbed input)
    (stepped : step paths store input = .ok (outputs, next)) :
    (∃ files process phase later progress, store = ⟨files, some (process, phase)⟩ ∧
      advance paths process files phase = some (later, progress) ∧
      continueWith process later progress = (outputs, next)) ∨
    ∃ files process pair, store = ⟨files, some (process, .generating)⟩ ∧ outputs = [] ∧
      next = ⟨files, some (process, .creating .certificate pair)⟩ := by
  obtain ⟨files, current⟩ := store
  cases input with
  | proceed =>
      cases current with
      | none => cases stepped
      | some current =>
          obtain ⟨process, phase⟩ := current
          simp only [step] at stepped
          split at stepped
          · exact Or.inl ⟨_, _, _, _, _, rfl, ‹_›, Outcome.ok.inj stepped⟩
          · cases stepped
  | generated result =>
      cases result with
      | error message => exact own.elim
      | ok pair =>
          cases current with
          | none => cases stepped
          | some current =>
              obtain ⟨process, phase⟩ := current
              cases phase with
              | generating =>
                  obtain ⟨rfl, rfl⟩ := Prod.mk.inj (Outcome.ok.inj stepped)
                  exact Or.inr ⟨files, process, pair, rfl, rfl, rfl⟩
              | _ => cases stepped
  | _ => exact own.elim

theorem Alone.kept {past : List IdentityOutput} (plain : Plain paths)
    (alone : Alone paths process past store) (own : Undisturbed input)
    (stepped : step paths store input = .ok (outputs, next)) :
    Alone paths process (past ++ outputs) next := by
  obtain ⟨files, current, phase, later, progress, rfl, advanced, continued⟩ |
    ⟨files, current, pair, rfl, rfl, rfl⟩ := undisturbed_cases own stepped
  · obtain ⟨rfl, rfl, smooth⟩ := alone
    exact alone_continueWith (advance_smooth plain smooth advanced) continued
  · obtain ⟨rfl, rfl, smooth⟩ := alone
    exact ⟨rfl, rfl, smooth⟩

/-- A process that has been left alone has told no success but the one in its last step. -/
theorem Alone.succeeds {past : List IdentityOutput} (plain : Plain paths)
    (alone : Alone paths process past store) (safe : store.Safe paths) (own : Undisturbed input)
    (stepped : step paths store input = .ok (outputs, next)) :
    Succeeded paths (past ++ outputs) next := by
  have nothing : past = [] := by
    obtain ⟨files, current, phase, later, progress, rfl, _⟩ | ⟨files, current, pair, rfl, _⟩ :=
      undisturbed_cases own stepped
    · exact alone.2.1
    · exact alone.2.1
  rw [nothing]
  exact (safe.kept plain stepped).2

/-- A process is left alone with safe files, and it has left an identity if it told a success. -/
structure Steady (paths : IdentityPaths) (process : Nat) (outputs : List IdentityOutput)
    (store : IdentityStore belongs) : Prop where
  alone : Alone paths process outputs store
  safe : store.Safe paths
  succeeded : Succeeded paths outputs store

theorem Steady.kept {past : List IdentityOutput} (plain : Plain paths)
    (steady : Steady paths process past store) (own : Undisturbed input)
    (stepped : step paths store input = .ok (outputs, next)) :
    Steady paths process (past ++ outputs) next :=
  { alone := steady.alone.kept plain own stepped
    safe := (steady.safe.kept plain stepped).1
    succeeded := steady.alone.succeeds plain steady.safe own stepped }

theorem undisturbed_lowers (own : Undisturbed input)
    (stepped : step paths store input = .ok (outputs, next)) : next.work < store.work := by
  obtain ⟨files, process, phase, later, progress, rfl, advanced, continued⟩ |
    ⟨files, process, pair, rfl, rfl, rfl⟩ := undisturbed_cases own stepped
  · rw [work_continueWith continued]
    exact left_lt advanced
  · simp [work, remaining]

/-- A process on its way can go on, except that it needs a pair at one point. -/
theorem advance_of_smooth (smooth : Smooth paths process files phase) :
    phase = .generating ∨ ∃ result, advance paths process files phase = some result := by
  cases phase with
  | generating => exact Or.inl rfl
  | guarding => exact smooth.elim
  | securing => exact smooth.elim
  | removing role => exact smooth.elim
  | writing role pair =>
      have written : files (paths.temporary process role) ≠ none := by
        cases role with
        | certificate => exact smooth.1
        | privateKey => exact smooth.2.2
      obtain ⟨file, stored⟩ := Option.ne_none_iff_exists'.mp written
      exact Or.inr ⟨_, Option.map_eq_some_iff.mpr ⟨file, stored, rfl⟩⟩
  | restricting pair =>
      obtain ⟨file, stored⟩ := Option.ne_none_iff_exists'.mp smooth.2.2
      exact Or.inr ⟨_, Option.map_eq_some_iff.mpr ⟨file, stored, rfl⟩⟩
  | syncing role => cases role <;> exact Or.inr ⟨_, rfl⟩
  | cleaning role => cases role <;> exact Or.inr ⟨_, rfl⟩
  | probing =>
      simp only [advance]
      split <;> exact Or.inr ⟨_, rfl⟩
  | creating =>
      simp only [advance]
      split <;> exact Or.inr ⟨_, rfl⟩
  | installingKey =>
      simp only [advance]
      split <;> exact Or.inr ⟨_, rfl⟩
  | installingCertificate =>
      simp only [advance]
      split <;> exact Or.inr ⟨_, rfl⟩
  | preparing => exact Or.inr ⟨_, rfl⟩
  | rollingBack => exact Or.inr ⟨_, rfl⟩

theorem Alone.ended (alone : Alone paths process outputs store)
    (generator : Nonempty (IdentityPair belongs))
    (rests : Machine.Rests (step paths) (fun _ input => Undisturbed input) store) :
    store.process = none := by
  obtain ⟨files, current⟩ := store
  cases current with
  | none => rfl
  | some current =>
      obtain ⟨process, phase⟩ := current
      obtain ⟨rfl, _, smooth⟩ := alone
      rcases advance_of_smooth smooth with rfl | ⟨⟨later, progress⟩, advanced⟩
      · obtain ⟨pair⟩ := generator
        exact absurd rfl (rests (.generated (.ok pair)) trivial _ _)
      · have stepped : step paths ⟨files, some (process, phase)⟩ .proceed =
            .ok (continueWith process later progress) := by simp only [step, advanced]
        exact absurd stepped (rests .proceed trivial _ _)

/-- A process that is left alone with no identity in place ends after a few steps.  It installs an
identity if the paths differ in more than their extensions, and fails otherwise. -/
theorem identity_installed_iff {own : List (IdentityInput belongs)} (plain : Plain paths)
    (fresh : Fresh paths process files) (undisturbed : ∀ input ∈ own, Undisturbed input)
    (ran : Machine.run (step paths) ⟨files, none⟩ (.ensure process :: own) =
      .ok (outputs, store)) :
    own.length ≤ 15 ∧
      (Nonempty (IdentityPair belongs) →
        Machine.Rests (step paths) (fun _ input => Undisturbed input) store →
          store.process = none) ∧
      (store.process = none → ∃ result, outputs = [.ended result] ∧
        (result = .ok () ↔ paths.certificate.directory ≠ paths.privateKey.directory ∨
          paths.certificate.stem ≠ paths.privateKey.stem) ∧
        (result = .ok () → Complete belongs paths store.files) ∧
        (result ≠ .ok () → result = .err "create temporary identity file")) := by
  obtain ⟨first, begun, rest, stepped, remaining, rfl⟩ := Machine.run_cons_eq_ok.mp ran
  obtain ⟨rfl, rfl⟩ := Prod.mk.inj (Outcome.ok.inj stepped)
  have started : Steady paths process []
      (⟨files, some (process, .probing)⟩ : IdentityStore belongs) :=
    { alone := ⟨rfl, rfl, fresh⟩
      safe := safe_of_achieved (sound_of_absent (fresh .certificate).1) trivial
      succeeded := nofun }
  obtain ⟨alone, _, succeeded⟩ := Machine.run_emits_on
    (fun steady own stepped => Steady.kept plain steady own stepped) started undisturbed remaining
  have bounded := Machine.run_length_le undisturbed_lowers (Machine.Along.of_forall undisturbed)
    remaining
  refine ⟨(Nat.le_add_right _ _).trans bounded, alone.ended, fun done => ?_⟩
  simp only [Alone, done] at alone
  obtain ⟨result, ended, fate⟩ := alone
  refine ⟨result, ended, ?_, fun success => succeeded ?_, fun unsuccessful => ?_⟩
  · have differs : Apart paths process ↔ _ := apart_iff
    rw [← differs]
    rcases fate with ⟨success, apart⟩ | ⟨failure, together⟩
    · exact iff_of_true success apart
    · exact iff_of_false (by rw [failure]; nofun) together
  · rw [ended, success]
    exact List.mem_singleton_self _
  · rcases fate with ⟨success, _⟩ | ⟨failure, _⟩
    · exact absurd success unsuccessful
    · exact failure

/-- A certificate and a key of one name cannot be installed. -/
theorem identity_installed_iff_same_name : ∃ outputs, ∃ store : IdentityStore Eq,
    Machine.run (step ⟨⟨"keys", "laptop", some "crt"⟩, ⟨"keys", "laptop", some "key"⟩⟩)
        ⟨fun _ => none, none⟩
        [.ensure 7, .proceed, .proceed, .generated (.ok ⟨[1], [1], rfl⟩), .proceed, .proceed,
          .proceed, .proceed, .proceed, .proceed] = .ok (outputs, store) ∧
      outputs = [.ended (.err "create temporary identity file")] := by
  let paths : IdentityPaths := ⟨⟨"keys", "laptop", some "crt"⟩, ⟨"keys", "laptop", some "key"⟩⟩
  let own : List (IdentityInput Eq) := [.proceed, .proceed, .generated (.ok ⟨[1], [1], rfl⟩),
    .proceed, .proceed, .proceed, .proceed, .proceed, .proceed]
  have plain : Plain paths := plain_of_short fun role => by cases role <;> decide
  have undisturbed : ∀ input ∈ own, Undisturbed input := by simp [own, Undisturbed]
  obtain ⟨⟨outputs, store⟩, ran, done⟩ : ∃ result : List IdentityOutput × IdentityStore Eq,
      Machine.run (step paths) ⟨fun _ => none, none⟩ (.ensure 7 :: own) = .ok result ∧
        result.2.process = none := ⟨_, rfl, rfl⟩
  obtain ⟨result, ended, success, _, failure⟩ :=
    (identity_installed_iff plain (fun _ => ⟨rfl, rfl⟩) undisturbed ran).2.2 done
  have unsuccessful : result ≠ .ok () := fun succeeded => absurd (success.mp succeeded) (by decide)
  exact ⟨outputs, store, ran, by rw [ended, failure unsuccessful]⟩

end IdentityStore
end Rflow
