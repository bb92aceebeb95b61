import ChipEight.CommandLine.Run
import ChipEight.Picture.FileFormat
import ChipEight.Proofs.Bitmaps
import ChipEight.Proofs.DecimalArguments
import ChipEight.Proofs.ReachableStates

/-!
# The numbers on a command line

A command line gives four numbers: the length of the run, the width and the height of the screen,
and the seed. They are all looked at before the program is. `Config.check` is what decides whether
there is a machine of such measures, and the command line asks it three times, since each number is
looked at before the next one is needed. `CommandLine.configOf_eq` says that this comes to asking
once.

## Usage

A wrong number is a matter of usage, with one exception: a seed outside the 64-bit numbers breaks
the run. Only a negative number of ticks is noticed before that.

Once there is a machine, no number is a matter of usage any more, although a run may still break
over a large one. `CommandLine.present_cases` tells how the screen is shown in the end, and
`Ending.OfMachine` are the endings that are left.
-/

namespace ChipEight

/-! ## What a machine can be made from -/

def IsInt64 (v : Int) : Prop := -0x8000000000000000 ≤ v ∧ v < 0x8000000000000000

instance (v : Int) : Decidable (IsInt64 v) := inferInstanceAs (Decidable (_ ∧ _))

theorem fitsSigned_64_iff {v : Int} : fitsSigned 64 v = true ↔ IsInt64 v := by
  rw [fitsSigned, beq_iff_eq, BitVec.toInt_ofInt, Int.bmod_def, IsInt64]
  split <;> omega

theorem Geometry.exists_ofSize_iff {width height : Int} :
    (∃ g, ofSize width height = .ok g) ↔ (0 < width ∧ width % 8 = 0) ∧ 0 < height := by
  rw [ofSize]
  constructor
  · rintro ⟨g, h⟩
    split at h
    · split at h
      · exact ⟨‹_›, ‹_›⟩
      · cases h
    · cases h
  · rintro ⟨hw, hh⟩
    rw [dif_pos hw, dif_pos hh]
    exact ⟨_, rfl⟩

theorem Geometry.ofSize_of_not_width {width height : Int} (h : ¬(0 < width ∧ width % 8 = 0)) :
    ofSize width height = .error (.width width) := by
  rw [ofSize, dif_neg h]

theorem Geometry.ofSize_ne_error_seed (width height : Int) :
    ofSize width height ≠ .error .seed := by
  intro h
  rw [ofSize] at h
  split at h
  · split at h
    · cases h
    · cases h
  · cases h

namespace Config

variable {width height seed stackSize : Int}

theorem check_of_seed (h : fitsSigned 64 seed = false) :
    check width height seed stackSize = .error .seed := by
  rw [check, h]
  rfl

theorem check_of_fits (h : fitsSigned 64 seed = true) (hstack : 0 ≤ stackSize) :
    check width height seed stackSize = (Geometry.ofSize width height).map
      fun geometry ↦ { geometry, capacity := stackSize.toNat, seed } := by
  rw [check, h]
  rcases Geometry.ofSize width height with e | g
  · rfl
  · exact if_neg (Int.not_lt.mpr hstack)

theorem exists_check_iff (hstack : 0 ≤ stackSize) :
    (∃ c, check width height seed stackSize = .ok c) ↔
      IsInt64 seed ∧ (0 < width ∧ width % 8 = 0) ∧ 0 < height := by
  rw [← fitsSigned_64_iff, ← Geometry.exists_ofSize_iff]
  rcases hfits : fitsSigned 64 seed with _ | _
  · rw [check_of_seed hfits]
    simp
  · rw [check_of_fits hfits hstack]
    rcases Geometry.ofSize width height with e | g
    · simp [Except.map]
    · simp [Except.map]

theorem seed_of_check {c : Config} (h : check width height seed stackSize = .ok c) :
    c.seed = seed := by
  rw [check] at h
  split at h
  · cases h
  · split at h
    · cases h
    · split at h
      · cases h
      · rw [← Except.ok.inj h]

end Config

/-! ## What is asked for -/

namespace CommandLine

/-- That settings give all of their numbers, and a level for the log. -/
structure Settings.Gives (t : Settings) (ticks width height seed : Int) (level : Level) : Prop where
  ticks_eq : t.ticks = some ticks
  width_eq : t.width = some width
  height_eq : t.height = some height
  seed_eq : t.seed = some seed
  logLevel_eq : t.logLevel = some level

section

variable {t : Settings} {ticks width height seed : Int} {level : Level} {c : Config}
  {e : ConfigError}

theorem checkedConfig_of_seed (h : fitsSigned 64 seed = false) :
    checkedConfig width height seed = .error { ending := .broken (.config .seed) } := by
  rw [checkedConfig, Config.check_of_seed h]

theorem checkedConfig_of_ok (h : Config.check width height seed defaultStackSize = .ok c) :
    checkedConfig width height seed = .ok c := by
  rw [checkedConfig, h]

theorem checkedConfig_of_error (hfits : fitsSigned 64 seed = true)
    (h : Config.check width height seed defaultStackSize = .error e) :
    checkedConfig width height seed = .error (usageReport (.config e)) := by
  rw [checkedConfig, h]
  rcases e with _ | w | v | v
  · rw [Config.check_of_fits hfits (by decide)] at h
    rcases hsize : Geometry.ofSize width height with e | g
    · rw [hsize] at h
      obtain rfl := Except.error.inj h
      exact absurd hsize (Geometry.ofSize_ne_error_seed width height)
    · rw [hsize] at h
      cases h
  · rfl
  · rfl
  · rfl

/-- To check each number before the next one is needed comes to checking them all. -/
theorem configOf_eq (h : t.Gives ticks width height seed level) :
    configOf t = checkedConfig width height seed := by
  -- each number is looked at with the usual ones in place of those after it
  have hchecks : configOf t = (checkedConfig defaultWidth defaultHeight seed).bind fun _ ↦
      (checkedConfig width defaultHeight seed).bind fun _ ↦ checkedConfig width height seed := by
    rw [configOf, h.seed_eq, h.width_eq, h.height_eq]
    rfl
  rw [hchecks]
  rcases hfits : fitsSigned 64 seed with _ | _
  · simp only [checkedConfig_of_seed hfits]
    rfl
  · have hseed := fitsSigned_64_iff.mp hfits
    have hstack : (0 : Int) ≤ defaultStackSize := by decide
    have hheight : (0 : Int) < defaultHeight := by decide
    obtain ⟨c, hc⟩ := (Config.exists_check_iff hstack).mpr
      ⟨hseed, (by decide : 0 < (defaultWidth : Int) ∧ (defaultWidth : Int) % 8 = 0), hheight⟩
    rw [checkedConfig_of_ok hc]
    by_cases hw : 0 < width ∧ width % 8 = 0
    · obtain ⟨c', hc'⟩ := (Config.exists_check_iff hstack).mpr ⟨hseed, hw, hheight⟩
      rw [checkedConfig_of_ok hc']
      rfl
    · -- a wrong width is found with the usual height, and reported as it would be with the other
      have herror (height : Int) :
          Config.check width height seed defaultStackSize = .error (.width width) := by
        rw [Config.check_of_fits hfits hstack, Geometry.ofSize_of_not_width hw]
        rfl
      rw [checkedConfig_of_error hfits (herror _), checkedConfig_of_error hfits (herror _)]
      rfl

theorem prepare_of_neg (h : t.Gives ticks width height seed level) (hneg : ticks < 0) :
    prepare t = .error (usageReport .negativeTicks) := by
  rw [prepare, h.ticks_eq]
  simp only [needed, bind, Except.bind, hneg, if_true]
  rfl

theorem prepare_of_nonneg (h : t.Gives ticks width height seed level) (hnonneg : 0 ≤ ticks) :
    prepare t = (checkedConfig width height seed).map fun c ↦ (ticks, level, c) := by
  rw [prepare, h.ticks_eq, h.logLevel_eq, configOf_eq h]
  simp only [needed, bind, Except.bind, Int.not_lt.mpr hnonneg, if_false]
  rcases checkedConfig width height seed with report | c
  · rfl
  · rfl

end

/-! ## How a run of a machine ends -/

/-- That an ending is one of a run whose machine could be made: a status of success or failure, or a
breakdown over the program or the picture. -/
inductive Ending.OfMachine : Ending → Prop
  | exit {status : Nat} (h : status < 2) : OfMachine (.exit status)
  | program (f : Failure) : OfMachine (.broken (.program f))
  | picture (e : PictureError) : OfMachine (.broken (.picture e))

section

variable {g : Geometry} {capacity : Nat}

def screenLines (s : State g capacity) : String :=
  (Bitmap.ofGrid s.screen.grid).text "#" "." ++ "\n"

/-- That there is a picture of the screen of a state, if one is asked for, and that it can be
saved. -/
def Settings.Savable (t : Settings) (host : Host) (s : State g capacity) : Prop :=
  ∀ file, t.screenshot = some file →
    ∃ shot, Screenshot.save host file s.screen.toList g.width g.height
      Screenshot.defaultScale Scheme.classic.palette = .ok shot

theorem screenText_eq (s : State g capacity) (wanted : Bool) :
    screenText s wanted = .ok (if wanted then screenLines s else "") := by
  rw [screenText, Bitmap.ofPacked_toList]
  rcases wanted with _ | _
  · rfl
  · rfl

/-- At the end the screen is shown as text, if that was asked for. Then either the picture that was
asked for cannot be saved, or the status stands, and at most the record of a screenshot is printed
in addition. -/
theorem present_cases (t : Settings) (host : Host) (m : Machine g capacity) (status : Nat)
    (output : String) :
    let shown := output ++ if t.ascii then screenLines m.state else ""
    (¬t.Savable host m.state ∧ ∃ e,
      present t host m status output = { ending := .broken (.picture e), output := shown }) ∨
    ∃ more image, (t.screenshot = none → more = "") ∧
      present t host m status output =
        { ending := .exit status, output := shown ++ more, image } := by
  simp only [present, screenText_eq]
  rcases hfile : t.screenshot with _ | file
  · refine .inr ⟨"", none, fun _ ↦ rfl, ?_⟩
    rw [String.append_empty]
  · rcases hsave : Screenshot.save host file m.state.screen.toList g.width g.height
      Screenshot.defaultScale Scheme.classic.palette with e | shot
    · refine .inl ⟨fun hsavable ↦ ?_, e, by simp only [hsave]⟩
      obtain ⟨shot, hshot⟩ := hsavable file hfile
      rw [hsave] at hshot
      cases hshot
    · refine .inr ⟨String.join (m.logger.log .info ("Screenshot saved: " ++ file)).2,
        some (file, shot), ?_, by simp only [hsave]⟩
      intro hnone
      cases hnone

theorem ofMachine_present (t : Settings) (host : Host) (m : Machine g capacity) {status : Nat}
    (h : status < 2) (output : String) : (present t host m status output).ending.OfMachine := by
  obtain ⟨-, e, he⟩ | ⟨more, image, -, hpresent⟩ := present_cases t host m status output
  · rw [he]
    exact .picture e
  · rw [hpresent]
    exact .exit h

theorem ofMachine_runMachine (r : Request) (ticks : Int) (host : Host)
    (m : Machine g capacity) : (runMachine r ticks host m).ending.OfMachine := by
  simp only [runMachine]
  split
  · simp only [runLoaded]
    split
    · exact ofMachine_present _ _ _ (by decide) _
    · exact .program _
    · exact ofMachine_present _ _ _ (by decide) _
  · exact .exit (by decide)
  · exact .program _

end

/-! ## Wrong numbers -/

section

variable {arguments : List String} {r : Request} {ticks width height seed : Int} {level : Level}
  {c : Config} {e : ConfigError}

theorem run_of_request (hr : Request.ofArguments arguments = .ok r) (host : Host)
    (logger : Logger) : run arguments host logger = runRequest r host logger := by
  rw [run, hr]

theorem runRequest_of_neg (h : r.settings.Gives ticks width height seed level) (hneg : ticks < 0)
    (host : Host) (logger : Logger) :
    runRequest r host logger = usageReport .negativeTicks := by
  rw [runRequest, prepare_of_neg h hneg]

theorem runRequest_of_seed (h : r.settings.Gives ticks width height seed level)
    (hnonneg : 0 ≤ ticks) (hseed : fitsSigned 64 seed = false) (host : Host)
    (logger : Logger) :
    runRequest r host logger = { ending := .broken (.config .seed) } := by
  rw [runRequest, prepare_of_nonneg h hnonneg, checkedConfig_of_seed hseed]
  rfl

theorem runRequest_of_error (h : r.settings.Gives ticks width height seed level)
    (hnonneg : 0 ≤ ticks) (hseed : fitsSigned 64 seed = true)
    (he : Config.check width height seed defaultStackSize = .error e) (host : Host)
    (logger : Logger) :
    runRequest r host logger = usageReport (.config e) := by
  rw [runRequest, prepare_of_nonneg h hnonneg, checkedConfig_of_error hseed he]
  rfl

theorem runRequest_of_ok (h : r.settings.Gives ticks width height seed level)
    (hnonneg : 0 ≤ ticks) (hc : Config.check width height seed defaultStackSize = .ok c)
    (host : Host) (logger : Logger) :
    runRequest r host logger =
      runMachine r ticks host (Machine.new c { logger with level }) := by
  rw [runRequest, prepare_of_nonneg h hnonneg, checkedConfig_of_ok hc]
  rfl

/-- That numbers are wrong in a way that is a matter of usage. -/
def WrongNumbers (ticks width height seed : Int) : Prop :=
  ticks < 0 ∨ IsInt64 seed ∧
    ∀ c, Config.check width height seed defaultStackSize ≠ .ok c

theorem WrongNumbers.exists_usageReport (hwrong : WrongNumbers ticks width height seed)
    (h : r.settings.Gives ticks width height seed level) :
    ∃ e, ∀ host logger, runRequest r host logger = usageReport e := by
  by_cases hneg : ticks < 0
  · exact ⟨_, runRequest_of_neg h hneg⟩
  · obtain ⟨hseed, hnone⟩ := hwrong.resolve_left hneg
    rcases he : Config.check width height seed defaultStackSize with e | c
    · exact ⟨_, runRequest_of_error h (Int.not_lt.mp hneg) (fitsSigned_64_iff.mpr hseed) he⟩
    · exact absurd he (hnone c)

theorem ending_runRequest_iff (h : r.settings.Gives ticks width height seed level)
    (host : Host) (logger : Logger) :
    (runRequest r host logger).ending = .exit 2 ↔ WrongNumbers ticks width height seed := by
  constructor
  · intro hending
    by_cases hneg : ticks < 0
    · exact .inl hneg
    · have hnonneg := Int.not_lt.mp hneg
      rcases hseed : fitsSigned 64 seed with _ | _
      · rw [runRequest_of_seed h hnonneg hseed] at hending
        cases hending
      · rcases hc : Config.check width height seed defaultStackSize with e | c
        · refine .inr ⟨fitsSigned_64_iff.mp hseed, fun c hok ↦ ?_⟩
          rw [hc] at hok
          cases hok
        · -- with a machine of these numbers the run does not end in usage
          have hmachine :=
            ofMachine_runMachine r ticks host (Machine.new c { logger with level })
          rw [← runRequest_of_ok h hnonneg hc, hending] at hmachine
          rcases hmachine with ⟨hstatus⟩
          exact absurd hstatus (by decide)
  · intro hwrong
    obtain ⟨e, he⟩ := hwrong.exists_usageReport h
    rw [he]
    rfl

/-- **Wrong numbers are a matter of usage.** A command line that gives all of its numbers ends with
status 2 if the number of ticks is negative, or if the seed is a 64-bit number and there is no
machine of these measures. That is settled before any file is read. A seed that is no 64-bit number
breaks the run, and in every other case there is a machine, of just these measures, which is run. -/
theorem wrong_numbers_are_usage (hr : Request.ofArguments arguments = .ok r)
    (h : r.settings.Gives ticks width height seed level) :
    ((∃ c, Config.check width height seed defaultStackSize = .ok c) ↔
      IsInt64 seed ∧ (0 < width ∧ width % 8 = 0) ∧ 0 < height) ∧
    (∀ host logger, (run arguments host logger).ending = .exit 2 ↔
      ticks < 0 ∨ IsInt64 seed ∧
        ∀ c, Config.check width height seed defaultStackSize ≠ .ok c) ∧
    (∀ host logger, (run arguments host logger).ending = .exit 2 →
      ∃ e, ∀ host logger, run arguments host logger = usageReport e) ∧
    (0 ≤ ticks → ¬IsInt64 seed → ∀ host logger,
      run arguments host logger = { ending := .broken (.config .seed) }) ∧
    ∀ c, 0 ≤ ticks → Config.check width height seed defaultStackSize = .ok c →
      (c.geometry.width = width ∧ c.geometry.height = height ∧ c.capacity = defaultStackSize ∧
        c.seed = seed) ∧
      ∀ host logger,
        run arguments host logger =
          runMachine r ticks host (Machine.new c { logger with level }) ∧
        (run arguments host logger).ending.OfMachine := by
  simp only [run_of_request hr]
  refine ⟨Config.exists_check_iff (by decide), ending_runRequest_iff h, ?_, ?_, ?_⟩
  · intro host logger hending
    exact ((ending_runRequest_iff h host logger).mp hending).exists_usageReport h
  · intro hnonneg hseed
    rw [← fitsSigned_64_iff, Bool.not_eq_true] at hseed
    exact runRequest_of_seed h hnonneg hseed
  · intro c hnonneg hc
    obtain ⟨hwidth, hheight, hcapacity⟩ := Config.eq_of_check hc
    refine ⟨⟨hwidth, hheight, Int.ofNat.inj hcapacity, Config.seed_of_check hc⟩, ?_⟩
    intro host logger
    rw [runRequest_of_ok h hnonneg hc]
    exact ⟨rfl, ofMachine_runMachine ..⟩

end

/-- A width that is no multiple of eight, a negative number of ticks with a seed that is too wide,
that seed alone, and numbers without a mistake. -/
theorem wrong_numbers_are_usage_of_four_lines :
    let wide := 0x8000000000000000
    (∀ host logger,
      (run (numberArguments "rom" 600 60 32 0 false) host logger).ending = .exit 2) ∧
    (∃ e, ∀ host logger,
      run (numberArguments "rom" (-1) 64 32 wide false) host logger = usageReport e) ∧
    (∀ host logger, run (numberArguments "rom" 600 64 32 wide false) host logger =
      { ending := .broken (.config .seed) }) ∧
    ∀ host logger,
      (run (numberArguments "rom" 600 64 32 0 false) host logger).ending.OfMachine := by
  intro wide
  have hrequest (ticks width height seed : Int) :=
    Request.ofArguments_numberArguments "rom" ticks width height seed false (by decide)
  refine ⟨?_, ?_, ?_, ?_⟩
  · obtain ⟨hmade, hending, -⟩ := wrong_numbers_are_usage
      (hrequest 600 60 32 0 (by decide +kernel)) ⟨rfl, rfl, rfl, rfl, rfl⟩
    intro host logger
    refine (hending host logger).mpr (.inr ⟨by decide, fun c hc ↦ ?_⟩)
    exact absurd (hmade.mp ⟨c, hc⟩) (by decide)
  · obtain ⟨-, hending, husage, -⟩ := wrong_numbers_are_usage
      (hrequest (-1) 64 32 wide (by decide +kernel)) ⟨rfl, rfl, rfl, rfl, rfl⟩
    let host := FileFormat.host ⟨fun _ ↦ .error .missing, fun _ ↦ .ok ()⟩
    exact husage host (.plain .info) ((hending host _).mpr (.inl (by decide)))
  · obtain ⟨-, -, -, hseed, -⟩ := wrong_numbers_are_usage
      (hrequest 600 64 32 wide (by decide +kernel)) ⟨rfl, rfl, rfl, rfl, rfl⟩
    exact hseed (by decide) (by decide)
  · obtain ⟨hmade, -, -, -, hrun⟩ := wrong_numbers_are_usage
      (hrequest 600 64 32 0 (by decide +kernel)) ⟨rfl, rfl, rfl, rfl, rfl⟩
    obtain ⟨c, hc⟩ := hmade.mpr (by decide)
    intro host logger
    exact ((hrun c (by decide) hc).2 host logger).2

/-- A machine of the usual size cannot be made from the seed `2 ^ 63`, and to a command line that
asks for it this is no matter of usage. -/
theorem wide_seed_is_no_usage :
    Config.check defaultWidth defaultHeight 0x8000000000000000 defaultStackSize =
        .error .seed ∧
      ∀ host logger,
        (run ["rom.ch8", "--seed", "9223372036854775808"] host logger).ending ≠ .exit 2 ∧
        run ["rom.ch8", "--seed", "9223372036854775808"] host logger =
          { ending := .broken (.config .seed) } := by
  have hrequest : Request.ofArguments ["rom.ch8", "--seed", "9223372036854775808"] =
      .ok { rom := "rom.ch8", settings := { seed := some 0x8000000000000000 } } := by
    decide +kernel
  refine ⟨by decide, fun host logger ↦ ?_⟩
  have hrun : run ["rom.ch8", "--seed", "9223372036854775808"] host logger =
      { ending := .broken (.config .seed) } := by
    rw [run_of_request hrequest]
    exact runRequest_of_seed ⟨rfl, rfl, rfl, rfl, rfl⟩ (by decide) (by decide) host logger
  rw [hrun]
  exact ⟨by decide, rfl⟩

end CommandLine

end ChipEight
