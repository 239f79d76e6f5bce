import Rflow.Foundation.Files
import Rflow.Foundation.Progress

/-!
# The identity of a device

A device has a certificate and a private key, in a file each.  A process that finds neither writes a
new pair into temporary files, and renames the key and then the certificate into place.  One process
is at work at a time; any of its file operations may fail but its looks whether a file exists, and
it may be cut short anywhere.
-/

namespace Rflow

open Foundation

/-- A path, taken apart as the standard library does it. -/
structure IdentityPath where
  directory : String
  stem : String
  extension : Option String
  deriving DecidableEq

def IdentityPath.withExtension (path : IdentityPath) (extension : String) : IdentityPath :=
  { path with extension := some extension }

def IdentityPath.display (path : IdentityPath) : String :=
  let name := match path.extension with
    | some extension => path.stem ++ "." ++ extension
    | none => path.stem
  if path.directory = "" then name else path.directory ++ "/" ++ name

structure IdentityFile where
  contents : List UInt8
  /-- Nobody but the owner can read the file. -/
  ownerOnly : Bool
  deriving DecidableEq

/-- What belongs together, as far as the certificates are concerned. -/
abbrev Belongs := List UInt8 → List UInt8 → Prop

/-- A certificate and its key, as they are generated. -/
structure IdentityPair (belongs : Belongs) where
  certificate : List UInt8
  privateKey : List UInt8
  matching : belongs certificate privateKey

inductive IdentityRole where
  | certificate
  | privateKey
  deriving DecidableEq

def IdentityPair.contents {belongs : Belongs} (pair : IdentityPair belongs) :
    IdentityRole → List UInt8
  | .certificate => pair.certificate
  | .privateKey => pair.privateKey

structure IdentityPaths where
  certificate : IdentityPath
  privateKey : IdentityPath
  deriving DecidableEq

namespace IdentityPaths

def path (paths : IdentityPaths) : IdentityRole → IdentityPath
  | .certificate => paths.certificate
  | .privateKey => paths.privateKey

/-- The extension of the temporary files of a process. -/
def suffix (process : Nat) : String := "tmp-" ++ toString process

def temporary (paths : IdentityPaths) (process : Nat) (role : IdentityRole) : IdentityPath :=
  (paths.path role).withExtension (suffix process)

end IdentityPaths

/-- Where a process has got to.  It ensures an identity, or it is asked to generate a new one. -/
inductive IdentityPhase (belongs : Belongs) where
  /-- `generate_identity` looks for files that it must not overwrite. -/
  | guarding (force : Bool)
  | removing (role : IdentityRole)
  /-- `ensure_identity` looks for the files. -/
  | probing
  | securing
  | preparing
  | generating
  | creating (role : IdentityRole) (pair : IdentityPair belongs)
  | writing (role : IdentityRole) (pair : IdentityPair belongs)
  | syncing (role : IdentityRole) (pair : IdentityPair belongs)
  | restricting (pair : IdentityPair belongs)
  | installingKey (pair : IdentityPair belongs)
  | installingCertificate (pair : IdentityPair belongs)
  | rollingBack
  | cleaning (role : IdentityRole) (result : Outcome String Unit)

/-- What comes after an operation. -/
inductive IdentityProgress (belongs : Belongs) where
  | goes (phase : IdentityPhase belongs)
  | ends (result : Outcome String Unit)

inductive IdentityInput (belongs : Belongs) where
  | ensure (process : Nat)
  | generate (process : Nat) (force : Bool)
  /-- The next operation of the process succeeds. -/
  | proceed
  /-- The generator returns a pair, or an error. -/
  | generated (result : Except String (IdentityPair belongs))
  /-- Some of the contents are written. -/
  | writeSome (length : Nat)
  /-- The next operation of the process fails. -/
  | fail
  /-- The process is cut short. -/
  | crash

inductive IdentityOutput where
  | ended (result : Outcome String Unit)
  deriving DecidableEq

abbrev IdentityFiles := Files IdentityPath IdentityFile

structure IdentityStore (belongs : Belongs) where
  files : IdentityFiles
  process : Option (Nat × IdentityPhase belongs)

namespace IdentityStore

variable {belongs : Belongs}

/-- Both temporary files are removed, and the result stands. -/
def failed (error : String) : IdentityProgress belongs :=
  .goes (.cleaning .certificate (.err error))

/-- The next operation of a process succeeds, as far as the files allow it. -/
def advance (paths : IdentityPaths) (process : Nat) (files : IdentityFiles) :
    IdentityPhase belongs → Option (IdentityFiles × IdentityProgress belongs)
  | .guarding force =>
      if force = false ∧ ((files paths.certificate).isSome ∨ (files paths.privateKey).isSome) then
        some (files,
          .ends (.err "certificate or key already exists; pass --force to overwrite"))
      else if force then
        some (files, .goes (.removing .certificate))
      else
        some (files, .goes .probing)
  | .removing .certificate =>
      some (files.remove paths.certificate, .goes (.removing .privateKey))
  | .removing .privateKey => some (files.remove paths.privateKey, .goes .probing)
  | .probing =>
      match (files paths.certificate).isSome, (files paths.privateKey).isSome with
      | true, true => some (files, .goes .securing)
      | false, false => some (files, .goes .preparing)
      | _, _ =>
          let error :=
            "device identity is incomplete; certificate and private key must both exist"
          some (files, .ends (.err error))
  | .securing =>
      (files paths.privateKey).map fun file =>
        (files.put paths.privateKey { file with ownerOnly := true }, .ends (.ok ()))
  | .preparing => some (files, .goes .generating)
  | .generating => none
  | .creating role pair =>
      match files.create (paths.temporary process role)
          { contents := [], ownerOnly := role = .privateKey } with
      | some files => some (files, .goes (.writing role pair))
      | none => some (files, failed "create temporary identity file")
  | .writing role pair =>
      (files (paths.temporary process role)).map fun file =>
        (files.put (paths.temporary process role) { file with contents := pair.contents role },
          .goes (.syncing role pair))
  | .syncing .certificate pair => some (files, .goes (.creating .privateKey pair))
  | .syncing .privateKey pair => some (files, .goes (.restricting pair))
  | .restricting pair =>
      (files (paths.temporary process .privateKey)).map fun file =>
        (files.put (paths.temporary process .privateKey) { file with ownerOnly := true },
          .goes (.installingKey pair))
  | .installingKey pair =>
      match files.rename (paths.temporary process .privateKey) paths.privateKey with
      | some files => some (files, .goes (.installingCertificate pair))
      | none => some (files, failed "install private key")
  | .installingCertificate _ =>
      match files.rename (paths.temporary process .certificate) paths.certificate with
      | some files => some (files, .goes (.cleaning .certificate (.ok ())))
      | none => some (files, .goes .rollingBack)
  | .rollingBack => some (files.remove paths.privateKey, failed "install certificate")
  | .cleaning .certificate result =>
      some (files.remove (paths.temporary process .certificate),
        .goes (.cleaning .privateKey result))
  | .cleaning .privateKey result =>
      some (files.remove (paths.temporary process .privateKey), .ends result)

/-- The next operation of a process fails.  A look at the files does not. -/
def afterFailure (paths : IdentityPaths) :
    IdentityPhase belongs → Option (IdentityProgress belongs)
  | .guarding _ | .probing | .generating => none
  | .removing role => some (.ends (.err ("remove " ++ (paths.path role).display)))
  | .securing => some (.ends (.err "secure private key permissions"))
  | .preparing => some (.ends (.err "create identity directory"))
  | .creating _ _ => some (failed "create temporary identity file")
  | .writing _ _ => some (failed "write identity file")
  | .syncing _ _ => some (failed "sync identity file")
  | .restricting _ => some (failed "secure private key permissions")
  | .installingKey _ => some (failed "install private key")
  | .installingCertificate _ => some (.goes .rollingBack)
  | .rollingBack => some (failed "install certificate")
  | .cleaning .certificate result => some (.goes (.cleaning .privateKey result))
  | .cleaning .privateKey result => some (.ends result)

/-- The process goes on, or ends with its result. -/
def continueWith (process : Nat) (files : IdentityFiles) :
    IdentityProgress belongs → List IdentityOutput × IdentityStore belongs
  | .goes phase => ([], ⟨files, some (process, phase)⟩)
  | .ends result => ([.ended result], ⟨files, none⟩)

def step (paths : IdentityPaths) :
    Machine.Step (IdentityStore belongs) (IdentityInput belongs) IdentityOutput Unit
  | ⟨files, none⟩, .ensure process => .ok ([], ⟨files, some (process, .probing)⟩)
  | ⟨files, none⟩, .generate process force => .ok ([], ⟨files, some (process, .guarding force)⟩)
  | ⟨files, some (process, phase)⟩, .proceed =>
      match advance paths process files phase with
      | some (files, progress) => .ok (continueWith process files progress)
      | none => .err ()
  | ⟨files, some (process, .generating)⟩, .generated (.ok pair) =>
      .ok ([], ⟨files, some (process, .creating .certificate pair)⟩)
  | ⟨files, some (_, .generating)⟩, .generated (.error message) =>
      .ok ([.ended (.err message)], ⟨files, none⟩)
  | ⟨files, some (process, .writing role pair)⟩, .writeSome length =>
      match files (paths.temporary process role) with
      | some file => .ok ([], ⟨files.put (paths.temporary process role)
          { file with contents := (pair.contents role).take length },
          some (process, .writing role pair)⟩)
      | none => .err ()
  | ⟨files, some (process, phase)⟩, .fail =>
      match afterFailure paths phase with
      | some progress => .ok (continueWith process files progress)
      | none => .err ()
  | ⟨files, some _⟩, .crash => .ok ([], ⟨files, none⟩)
  | _, _ => .err ()

/-- A certificate that is in place has its key next to it. -/
def Sound (belongs : Belongs) (paths : IdentityPaths) (files : IdentityFiles) : Prop :=
  ∀ certificate, files paths.certificate = some certificate →
    ∃ key, files paths.privateKey = some key ∧ belongs certificate.contents key.contents

/-- An identity that its owner alone can use is in place. -/
def Complete (belongs : Belongs) (paths : IdentityPaths) (files : IdentityFiles) : Prop :=
  ∃ certificate key, files paths.certificate = some certificate ∧
    files paths.privateKey = some key ∧ key.ownerOnly = true ∧
    belongs certificate.contents key.contents

/-- No path of the identity looks like that of a temporary file. -/
def Plain (paths : IdentityPaths) : Prop :=
  ∀ role process, (paths.path role).extension ≠ some (IdentityPaths.suffix process)

/-- What a process has achieved. -/
def Achieved (paths : IdentityPaths) (process : Nat) (files : IdentityFiles) :
    IdentityPhase belongs → Prop
  | .guarding _ | .probing | .removing .certificate => True
  | .removing .privateKey | .rollingBack => files paths.certificate = none
  | .securing => ∃ certificate, files paths.certificate = some certificate
  | .preparing | .generating | .creating .certificate _ =>
      files paths.certificate = none ∧ files paths.privateKey = none
  | .writing .certificate _ =>
      files paths.certificate = none ∧ files paths.privateKey = none ∧
        files (paths.temporary process .certificate) ≠ none
  | .syncing .certificate pair | .creating .privateKey pair =>
      files paths.certificate = none ∧ files paths.privateKey = none ∧
        ∃ file, files (paths.temporary process .certificate) = some file ∧
          file.contents = pair.certificate
  | .writing .privateKey pair =>
      files paths.certificate = none ∧ files paths.privateKey = none ∧
        paths.temporary process .privateKey ≠ paths.temporary process .certificate ∧
        (∃ file, files (paths.temporary process .certificate) = some file ∧
          file.contents = pair.certificate) ∧
        ∃ file, files (paths.temporary process .privateKey) = some file ∧ file.ownerOnly = true
  | .syncing .privateKey pair | .restricting pair | .installingKey pair =>
      files paths.certificate = none ∧ files paths.privateKey = none ∧
        paths.temporary process .privateKey ≠ paths.temporary process .certificate ∧
        (∃ file, files (paths.temporary process .certificate) = some file ∧
          file.contents = pair.certificate) ∧
        files (paths.temporary process .privateKey) = some ⟨pair.privateKey, true⟩
  | .installingCertificate pair =>
      files paths.certificate = none ∧ files paths.privateKey = some ⟨pair.privateKey, true⟩ ∧
        paths.privateKey ≠ paths.certificate ∧
        ∃ file, files (paths.temporary process .certificate) = some file ∧
          file.contents = pair.certificate
  | .cleaning _ result => result = .ok () → Complete belongs paths files

/-- What holds of the store at any time. -/
structure Safe (paths : IdentityPaths) (store : IdentityStore belongs) : Prop where
  sound : Sound belongs paths store.files
  achieved : ∀ process phase, store.process = some (process, phase) →
    Achieved paths process store.files phase

/-- What comes after an operation fits the files. -/
def Fits (paths : IdentityPaths) (process : Nat) (files : IdentityFiles) :
    IdentityProgress belongs → Prop
  | .goes phase => Achieved paths process files phase
  | .ends result => result = .ok () → Complete belongs paths files

variable {paths : IdentityPaths} {files later : IdentityFiles} {process : Nat}
  {role other : IdentityRole} {phase : IdentityPhase belongs}
  {progress : IdentityProgress belongs}

/-- The extension of a temporary file is longer than the usual ones. -/
theorem plain_of_short (short : ∀ role, ((paths.path role).extension.getD "").length ≤ 3) :
    Plain paths := by
  intro role process same
  have bound := short role
  have long : "tmp-".length = 4 := rfl
  rw [same, Option.getD_some, IdentityPaths.suffix, String.length_append, long] at bound
  omega

theorem temporary_ne (plain : Plain paths) (role other : IdentityRole) :
    paths.temporary process role ≠ paths.path other := fun same =>
  plain other process (congrArg IdentityPath.extension same).symm

theorem paths_ne
    (apart : paths.temporary process .privateKey ≠ paths.temporary process .certificate) :
    paths.privateKey ≠ paths.certificate := fun same => apart (by
  simp only [IdentityPaths.temporary, IdentityPaths.path, same])

theorem sound_of_absent (absent : files paths.certificate = none) : Sound belongs paths files := by
  intro certificate present
  cases absent.symm.trans present

theorem Sound.congr (sound : Sound belongs paths files)
    (certificate : later paths.certificate = files paths.certificate)
    (key : later paths.privateKey = files paths.privateKey) : Sound belongs paths later := by
  intro file present
  rw [key]
  exact sound file (certificate ▸ present)

theorem Complete.congr (complete : Complete belongs paths files)
    (certificate : later paths.certificate = files paths.certificate)
    (key : later paths.privateKey = files paths.privateKey) : Complete belongs paths later := by
  unfold Complete
  rw [certificate, key]
  exact complete

theorem Complete.sound (complete : Complete belongs paths files) : Sound belongs paths files := by
  obtain ⟨certificate, key, present, stored, _, matching⟩ := complete
  intro file again
  obtain rfl : certificate = file := Option.some.inj (present.symm.trans again)
  exact ⟨key, stored, matching⟩

/-- An operation on a temporary file leaves the identity alone. -/
theorem put_temporary (plain : Plain paths) (role other : IdentityRole) (file : IdentityFile) :
    files.put (paths.temporary process role) file (paths.path other) = files (paths.path other) :=
  Files.put_other (temporary_ne plain role other).symm

theorem remove_temporary (plain : Plain paths) (role other : IdentityRole) :
    files.remove (paths.temporary process role) (paths.path other) = files (paths.path other) :=
  Files.remove_other (temporary_ne plain role other).symm

/-- Whatever is written to a temporary file. -/
theorem writing_kept {pair : IdentityPair belongs} {file : IdentityFile} (plain : Plain paths)
    (sound : Sound belongs paths files)
    (achieved : Achieved paths process files (.writing role pair))
    (stored : files (paths.temporary process role) = some file) (contents : List UInt8) :
    Sound belongs paths (files.put (paths.temporary process role) { file with contents }) ∧
      Achieved paths process (files.put (paths.temporary process role) { file with contents })
        (.writing role pair) := by
  have kept (other : IdentityRole) :
      files.put (paths.temporary process role) { file with contents } (paths.path other) =
        files (paths.path other) := put_temporary plain role other _
  refine ⟨sound.congr (kept .certificate) (kept .privateKey), ?_⟩
  cases role with
  | certificate =>
      obtain ⟨noCertificate, noKey, _⟩ := achieved
      exact ⟨(kept .certificate).trans noCertificate, (kept .privateKey).trans noKey,
        Files.put_ne_none⟩
  | privateKey =>
      obtain ⟨noCertificate, noKey, apart, ⟨beside, present, whole⟩, current, same, owner⟩ :=
        achieved
      obtain rfl : file = current := Option.some.inj (stored.symm.trans same)
      exact ⟨(kept .certificate).trans noCertificate, (kept .privateKey).trans noKey, apart,
        ⟨beside, (Files.put_other apart.symm).trans present, whole⟩, _, Files.put_same, owner⟩

/-- A temporary file is written when it has its contents. -/
theorem syncing_of_writing {pair : IdentityPair belongs} {file : IdentityFile}
    (achieved : Achieved paths process files (.writing role pair))
    (stored : files (paths.temporary process role) =
      some { file with contents := pair.contents role }) :
    Achieved paths process files (.syncing role pair) := by
  cases role with
  | certificate => exact ⟨achieved.1, achieved.2.1, _, stored, rfl⟩
  | privateKey =>
      obtain ⟨noCertificate, noKey, apart, beside, current, same, owner⟩ := achieved
      obtain rfl := Option.some.inj (same.symm.trans stored)
      have whole : { file with contents := pair.contents .privateKey } =
          (⟨pair.privateKey, true⟩ : IdentityFile) := by
        cases file
        simpa [IdentityPair.contents] using owner
      exact ⟨noCertificate, noKey, apart, beside, whole ▸ stored⟩

theorem advance_fits (plain : Plain paths) (sound : Sound belongs paths files)
    (achieved : Achieved paths process files phase)
    (advanced : advance paths process files phase = some (later, progress)) :
    Sound belongs paths later ∧ Fits paths process later progress := by
  cases phase with
  | guarding force =>
      simp only [advance] at advanced
      split_ifs at advanced
      all_goals
        obtain ⟨rfl, rfl⟩ := Prod.mk.inj (Option.some.inj advanced)
        exact ⟨sound, by first | trivial | nofun⟩
  | removing role =>
      cases role with
      | certificate =>
          obtain ⟨rfl, rfl⟩ := Prod.mk.inj (Option.some.inj advanced)
          exact ⟨sound_of_absent Files.remove_same, Files.remove_same⟩
      | privateKey =>
          obtain ⟨rfl, rfl⟩ := Prod.mk.inj (Option.some.inj advanced)
          exact ⟨sound_of_absent (Files.remove_eq_none achieved), trivial⟩
  | probing =>
      simp only [advance] at advanced
      split at advanced
      · obtain ⟨rfl, rfl⟩ := Prod.mk.inj (Option.some.inj advanced)
        exact ⟨sound, Option.isSome_iff_exists.mp ‹_›⟩
      · obtain ⟨rfl, rfl⟩ := Prod.mk.inj (Option.some.inj advanced)
        exact ⟨sound, Option.isSome_eq_false_iff.mp ‹_› |> Option.isNone_iff_eq_none.mp,
          Option.isSome_eq_false_iff.mp ‹_› |> Option.isNone_iff_eq_none.mp⟩
      · obtain ⟨rfl, rfl⟩ := Prod.mk.inj (Option.some.inj advanced)
        exact ⟨sound, nofun⟩
  | securing =>
      obtain ⟨key, stored, same⟩ := Option.map_eq_some_iff.mp advanced
      obtain ⟨rfl, rfl⟩ := Prod.mk.inj same
      obtain ⟨certificate, present⟩ := achieved
      obtain ⟨matched, again, matching⟩ := sound certificate present
      obtain rfl : key = matched := Option.some.inj (stored.symm.trans again)
      have complete : Complete belongs paths
          (files.put paths.privateKey { key with ownerOnly := true }) := by
        by_cases same : paths.certificate = paths.privateKey
        · have own : belongs key.contents key.contents := by
            rw [same, stored] at present
            obtain rfl := Option.some.inj present
            exact matching
          exact ⟨{ key with ownerOnly := true }, { key with ownerOnly := true },
            by rw [same, Files.put_same], Files.put_same, rfl, own⟩
        · exact ⟨certificate, _, (Files.put_other same).trans present, Files.put_same, rfl,
            matching⟩
      exact ⟨complete.sound, fun _ => complete⟩
  | preparing =>
      obtain ⟨rfl, rfl⟩ := Prod.mk.inj (Option.some.inj advanced)
      exact ⟨sound, achieved⟩
  | generating => cases advanced
  | creating role pair =>
      simp only [advance] at advanced
      split at advanced
      · obtain ⟨rfl, rfl⟩ := Prod.mk.inj (Option.some.inj advanced)
        obtain ⟨free, rfl⟩ := Files.create_eq_some ‹_›
        let empty : IdentityFile := { contents := [], ownerOnly := role = .privateKey }
        have kept (other : IdentityRole) :
            files.put (paths.temporary process role) empty (paths.path other) =
              files (paths.path other) := put_temporary plain role other empty
        refine ⟨sound.congr (kept .certificate) (kept .privateKey), ?_⟩
        cases role with
        | certificate =>
            obtain ⟨noCertificate, noKey⟩ := achieved
            exact ⟨(kept .certificate).trans noCertificate, (kept .privateKey).trans noKey,
              Files.put_ne_none⟩
        | privateKey =>
            obtain ⟨noCertificate, noKey, file, stored, contents⟩ := achieved
            have apart : paths.temporary process .privateKey ≠
                paths.temporary process .certificate := fun same => by
              cases free.symm.trans (same ▸ stored)
            exact ⟨(kept .certificate).trans noCertificate, (kept .privateKey).trans noKey, apart,
              ⟨file, (Files.put_other apart.symm).trans stored, contents⟩, _, Files.put_same, rfl⟩
      · obtain ⟨rfl, rfl⟩ := Prod.mk.inj (Option.some.inj advanced)
        exact ⟨sound, nofun⟩
  | writing role pair =>
      obtain ⟨file, stored, same⟩ := Option.map_eq_some_iff.mp advanced
      obtain ⟨rfl, rfl⟩ := Prod.mk.inj same
      have ⟨kept, written⟩ := writing_kept plain sound achieved stored (pair.contents role)
      exact ⟨kept, syncing_of_writing written Files.put_same⟩
  | syncing role pair =>
      cases role <;>
        obtain ⟨rfl, rfl⟩ := Prod.mk.inj (Option.some.inj advanced) <;>
        exact ⟨sound, achieved⟩
  | restricting pair =>
      obtain ⟨current, stored, same⟩ := Option.map_eq_some_iff.mp advanced
      obtain ⟨rfl, rfl⟩ := Prod.mk.inj same
      obtain ⟨noCertificate, noKey, apart, beside, written⟩ := achieved
      obtain rfl : current = ⟨pair.privateKey, true⟩ := Option.some.inj (stored.symm.trans written)
      have unchanged : files.put (paths.temporary process .privateKey)
          ⟨pair.privateKey, true⟩ = files := by
        rw [Files.put, ← written, Function.update_eq_self]
      rw [unchanged]
      exact ⟨sound, noCertificate, noKey, apart, beside, written⟩
  | installingKey pair =>
      obtain ⟨noCertificate, _, apart, ⟨file, beside, contents⟩, written⟩ := achieved
      simp only [advance] at advanced
      split at advanced
      · obtain ⟨rfl, rfl⟩ := Prod.mk.inj (Option.some.inj advanced)
        obtain ⟨key, stored, rfl⟩ := Files.rename_eq_some ‹_›
        obtain rfl : key = ⟨pair.privateKey, true⟩ := Option.some.inj (stored.symm.trans written)
        have certificate : ((files.remove (paths.temporary process .privateKey)).put
            paths.privateKey ⟨pair.privateKey, true⟩) paths.certificate = none := by
          rw [Files.put_other (paths_ne apart).symm, Files.remove_eq_none noCertificate]
        refine ⟨sound_of_absent certificate, certificate, Files.put_same, paths_ne apart, file, ?_,
          contents⟩
        exact (Files.put_other (temporary_ne plain .certificate .privateKey)).trans
          ((Files.remove_other apart.symm).trans beside)
      · obtain ⟨rfl, rfl⟩ := Prod.mk.inj (Option.some.inj advanced)
        exact ⟨sound, nofun⟩
  | installingCertificate pair =>
      obtain ⟨noCertificate, key, apart, file, beside, contents⟩ := achieved
      simp only [advance] at advanced
      split at advanced
      · obtain ⟨rfl, rfl⟩ := Prod.mk.inj (Option.some.inj advanced)
        obtain ⟨certificate, stored, rfl⟩ := Files.rename_eq_some ‹_›
        obtain rfl : certificate = file := Option.some.inj (stored.symm.trans beside)
        have complete : Complete belongs paths ((files.remove
            (paths.temporary process .certificate)).put paths.certificate certificate) := by
          refine ⟨certificate, ⟨pair.privateKey, true⟩, Files.put_same, ?_, rfl,
            contents ▸ pair.matching⟩
          rw [Files.put_other apart, ← key]
          exact remove_temporary plain .certificate .privateKey
        exact ⟨complete.sound, fun _ => complete⟩
      · obtain ⟨rfl, rfl⟩ := Prod.mk.inj (Option.some.inj advanced)
        exact ⟨sound, noCertificate⟩
  | rollingBack =>
      obtain ⟨rfl, rfl⟩ := Prod.mk.inj (Option.some.inj advanced)
      exact ⟨sound_of_absent (Files.remove_eq_none achieved), nofun⟩
  | cleaning role result =>
      have kept (other : IdentityRole) : files.remove (paths.temporary process role)
          (paths.path other) = files (paths.path other) := remove_temporary plain role other
      cases role <;> obtain ⟨rfl, rfl⟩ := Prod.mk.inj (Option.some.inj advanced) <;>
        exact ⟨sound.congr (kept .certificate) (kept .privateKey), fun done =>
          (achieved done).congr (kept .certificate) (kept .privateKey)⟩

theorem afterFailure_fits (achieved : Achieved paths process files phase)
    (failed : afterFailure paths phase = some progress) : Fits paths process files progress := by
  cases phase with
  | guarding => cases failed
  | probing => cases failed
  | generating => cases failed
  | installingCertificate =>
      obtain rfl := Option.some.inj failed
      exact achieved.1
  | cleaning role result =>
      cases role <;> obtain rfl := Option.some.inj failed <;> exact achieved
  | _ =>
      obtain rfl := Option.some.inj failed
      exact nofun

variable {store next : IdentityStore belongs} {input : IdentityInput belongs}
  {outputs : List IdentityOutput}

/-- A process that has ended successfully has left an identity. -/
def Succeeded (paths : IdentityPaths) (outputs : List IdentityOutput)
    (store : IdentityStore belongs) : Prop :=
  .ended (.ok ()) ∈ outputs → Complete belongs paths store.files

theorem safe_of_achieved (sound : Sound belongs paths files)
    (achieved : Achieved paths process files phase) :
    Safe paths ⟨files, some (process, phase)⟩ := by
  refine ⟨sound, fun process phase same => ?_⟩
  obtain ⟨rfl, rfl⟩ := Prod.mk.inj (Option.some.inj same)
  exact achieved

theorem continueWith_safe (sound : Sound belongs paths files)
    (fits : Fits paths process files progress)
    (continued : continueWith process files progress = (outputs, next)) :
    next.Safe paths ∧ Succeeded paths outputs next := by
  cases progress with
  | goes phase =>
      obtain ⟨rfl, rfl⟩ := Prod.mk.inj continued
      exact ⟨safe_of_achieved sound fits, nofun⟩
  | ends result =>
      obtain ⟨rfl, rfl⟩ := Prod.mk.inj continued
      exact ⟨⟨sound, nofun⟩, fun succeeded =>
        fits (IdentityOutput.ended.inj (List.mem_singleton.mp succeeded)).symm⟩

/-- Every step keeps the files safe, wherever operations fail or a process is cut short. -/
theorem Safe.kept (plain : Plain paths) (safe : store.Safe paths)
    (stepped : step paths store input = .ok (outputs, next)) :
    next.Safe paths ∧ Succeeded paths outputs next := by
  unfold step at stepped
  split at stepped
  · obtain ⟨rfl, rfl⟩ := Prod.mk.inj (Outcome.ok.inj stepped)
    exact ⟨safe_of_achieved safe.sound trivial, nofun⟩
  · obtain ⟨rfl, rfl⟩ := Prod.mk.inj (Outcome.ok.inj stepped)
    exact ⟨safe_of_achieved safe.sound trivial, nofun⟩
  · split at stepped
    · obtain ⟨sound, fits⟩ := advance_fits plain safe.sound (safe.achieved _ _ rfl) ‹_›
      exact continueWith_safe sound fits (Outcome.ok.inj stepped)
    · cases stepped
  · obtain ⟨rfl, rfl⟩ := Prod.mk.inj (Outcome.ok.inj stepped)
    exact ⟨safe_of_achieved safe.sound (safe.achieved _ .generating rfl), nofun⟩
  · obtain ⟨rfl, rfl⟩ := Prod.mk.inj (Outcome.ok.inj stepped)
    exact ⟨⟨safe.sound, nofun⟩, by simp [Succeeded]⟩
  · split at stepped
    · obtain ⟨rfl, rfl⟩ := Prod.mk.inj (Outcome.ok.inj stepped)
      obtain ⟨sound, achieved⟩ :=
        writing_kept plain safe.sound (safe.achieved _ _ rfl) ‹_› (List.take _ _)
      exact ⟨safe_of_achieved sound achieved, nofun⟩
    · cases stepped
  · split at stepped
    · exact continueWith_safe safe.sound (afterFailure_fits (safe.achieved _ _ rfl) ‹_›)
        (Outcome.ok.inj stepped)
    · cases stepped
  · obtain ⟨rfl, rfl⟩ := Prod.mk.inj (Outcome.ok.inj stepped)
    exact ⟨⟨safe.sound, nofun⟩, nofun⟩
  · cases stepped

/-- From files in which a certificate in place has its key next to it, whatever fails and wherever
processes are cut short, one after the other: a certificate in place always has its key next to it,
and a process that ends successfully leaves an identity that its owner alone can use. -/
theorem identity_never_torn {inputs : List (IdentityInput belongs)} (plain : Plain paths)
    (sound : Sound belongs paths files)
    (ran : Machine.run (step paths) ⟨files, none⟩ inputs = .ok (outputs, store)) :
    Sound belongs paths store.files ∧
      ∀ input ended next, step paths store input = .ok (ended, next) →
        Succeeded paths ended next := by
  have idle : Safe paths (⟨files, none⟩ : IdentityStore belongs) :=
    ⟨sound, fun _ _ none => by cases none⟩
  have safe : store.Safe paths := Machine.run_preserves
    (fun safe stepped => (Safe.kept plain safe stepped).1) idle ran
  exact ⟨safe.sound, fun _ _ _ stepped => (safe.kept plain stepped).2⟩

/-- The paths that are used unless others are asked for. -/
def samplePaths : IdentityPaths where
  certificate := ⟨"rflow", "identity-cert", some "der"⟩
  privateKey := ⟨"rflow", "identity-key", some "der"⟩

theorem samplePaths_plain : Plain samplePaths :=
  plain_of_short fun role => by cases role <;> decide

/-- A process is cut short when its key is in place and its certificate is not. -/
theorem identity_never_torn_between : ∃ outputs, ∃ store : IdentityStore Eq,
    Machine.run (step samplePaths) ⟨fun _ => none, none⟩
        [.ensure 7, .proceed, .proceed, .generated (.ok ⟨[1], [1], rfl⟩), .proceed, .proceed,
          .proceed, .proceed, .writeSome 0, .proceed, .proceed, .proceed, .proceed, .crash] =
      .ok (outputs, store) ∧
    store.files samplePaths.privateKey = some ⟨[1], true⟩ ∧
    Sound Eq samplePaths store.files := by
  have sound : Sound Eq samplePaths fun _ => none := fun _ none => by cases none
  have ran : ∃ result : List IdentityOutput × IdentityStore Eq,
      Machine.run (step samplePaths) ⟨fun _ => none, none⟩
        [.ensure 7, .proceed, .proceed, .generated (.ok ⟨[1], [1], rfl⟩), .proceed, .proceed,
          .proceed, .proceed, .writeSome 0, .proceed, .proceed, .proceed, .proceed, .crash] =
        .ok result ∧ result.2.files samplePaths.privateKey = some ⟨[1], true⟩ := ⟨_, rfl, by decide⟩
  obtain ⟨⟨outputs, store⟩, ran, key⟩ := ran
  exact ⟨outputs, store, ran, key, (identity_never_torn samplePaths_plain sound ran).1⟩

end IdentityStore
end Rflow
