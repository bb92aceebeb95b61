import ChipEight.Proofs.Replies
import Mathlib.Data.List.Basic

/-!
# What a logger prints

A logger is a small machine of its own. It is given calls with names of levels that may be anything,
it fails at those which are no level, and it goes on after that. `LogCall` is any of its calls,
`Logger.call` is what comes of it, and `Logger.printed` all that is printed over many calls.

## The trace of the calls

What is printed does not depend on how it came to be asked for. Every call has an entry or none, and
`LogCall.passing` keeps those entries that are grave enough for the level at their time. The records
are these entries in order, each behind its time stamp, `Logger.printed_eq_stamped`, and one reading
of the clock has gone into each stamp. So the clock and the stamps can be left aside when two
loggers are compared, and that a higher level prints less is said of entries,
`LogCall.passing_sublist`.
-/

namespace ChipEight

/-! ## Names of levels -/

/-- That the name of a level in capitals is what a text is in capitals. -/
def Level.Named (name : String) (v : Level) : Prop := name.toList.map capital = v.name.toList

instance (name : String) (v : Level) : Decidable (Level.Named name v) :=
  inferInstanceAs (Decidable (_ = _))

theorem Level.ofName?_eq_some_iff {name : String} {v : Level} :
    ofName? name = some v ↔ Named name v := by
  constructor
  · intro h
    have hname := List.find?_some h
    exact (beq_iff_eq.mp hname).symm
  · intro h
    rw [ofName?, h]
    cases v <;> rfl

theorem Level.ofName?_eq_none_iff {name : String} :
    ofName? name = none ↔ ∀ v, ¬Named name v := by
  simp only [← ofName?_eq_some_iff, Option.eq_none_iff_forall_not_mem, Option.mem_def]

theorem Level.le_iff {a b : Level} : a ≤ b ↔ a.rank ≤ b.rank := Iff.rfl

/-! ## Calls -/

/-- A call that a logger is given. -/
inductive LogCall where
  /-- It is to log a message at the level of a name. -/
  | log (level message : String)
  /-- It is to log a message that helps to find mistakes. -/
  | debug (message : String)
  /-- It is to log a message. -/
  | info (message : String)
  /-- It is to log the message of an error. -/
  | error (message : String)
  /-- It is to log from the level of a name on. -/
  | setLevel (name : String)
  /-- It is asked whether it lets the level of a name through. -/
  | isEnabledFor (name : String)

/-- What a logger answers to a call that does not fail. -/
inductive LogAnswer where
  /-- The call has been carried out. -/
  | done
  /-- Whether the level is let through. -/
  | enabled (b : Bool)

/-- What comes of a call. -/
structure LogOutcome where
  /-- The logger after the call. -/
  logger : Logger
  /-- The answer. -/
  result : Except LevelError LogAnswer
  /-- The records of the call. -/
  records : List String

namespace LogCall

/-- What a call asks to be logged. A message at no level is not logged. -/
def entry? : LogCall → Option LogEntry
  | .log level message => (Level.ofName? level).map fun v ↦ ⟨v, message⟩
  | .debug message => some ⟨.debug, message⟩
  | .info message => some ⟨.info, message⟩
  | .error message => some ⟨.error, message⟩
  | .setLevel _ | .isEnabledFor _ => none

/-- The level that a call sets, if it is one. -/
def levelSet? : LogCall → Option Level
  | .setLevel name => Level.ofName? name
  | _ => none

/-- The level after some calls: the last one that was set. -/
def levelAfter (level : Level) (calls : List LogCall) : Level :=
  (calls.filterMap levelSet?).getLast?.getD level

/-- The entries of some calls, without those below the level at their time. -/
def passing (level : Level) : List LogCall → List LogEntry
  | [] => []
  | c :: calls =>
    c.entry?.toList.filter (fun e ↦ level ≤ e.level) ++ passing (c.levelSet?.getD level) calls

theorem levelAfter_cons (level : Level) (c : LogCall) (calls : List LogCall) :
    levelAfter level (c :: calls) = levelAfter (c.levelSet?.getD level) calls := by
  rw [levelAfter, levelAfter, List.filterMap_cons]
  rcases c.levelSet? with _ | v
  · rfl
  · simp only [List.getLast?_cons, Option.getD_some]

theorem levelAfter_of_none {calls : List LogCall}
    (h : ∀ name v, .setLevel name ∈ calls → ¬Level.Named name v) (level : Level) :
    levelAfter level calls = level := by
  have hnone : calls.filterMap levelSet? = [] := by
    rw [List.filterMap_eq_nil_iff]
    intro c hc
    rcases c with _ | _ | _ | _ | name | _ <;> try rfl
    exact Level.ofName?_eq_none_iff.mpr fun v ↦ h name v hc
  rw [levelAfter, hnone]
  rfl

theorem levelAfter_of_last {name : String} {v : Level} {after : List LogCall}
    (hname : Level.Named name v) (h : ∀ name v, .setLevel name ∈ after → ¬Level.Named name v)
    (level : Level) (before : List LogCall) :
    levelAfter level (before ++ .setLevel name :: after) = v := by
  induction before generalizing level with
  | nil =>
    rw [List.nil_append, levelAfter_cons, levelAfter_of_none h, levelSet?,
      Level.ofName?_eq_some_iff.mpr hname]
    rfl
  | cons c before ih => rw [List.cons_append, levelAfter_cons, ih]

/-- A logger with a higher level lets a part of the entries through, as long as it has the higher
level. -/
theorem passing_sublist {a b : Level} (h : a.rank ≤ b.rank) (calls : List LogCall) :
    (passing b calls).Sublist (passing a calls) := by
  induction calls generalizing a b with
  | nil => exact List.Sublist.refl _
  | cons c calls ih =>
    have hlevel : (c.levelSet?.getD a).rank ≤ (c.levelSet?.getD b).rank := by
      rcases c.levelSet? with _ | v
      · exact h
      · exact Nat.le_refl _
    refine List.Sublist.append ?_ (ih hlevel)
    apply List.monotone_filter_right
    intro e he
    rw [decide_eq_true_eq, Level.le_iff] at he ⊢
    exact Nat.le_trans h he

end LogCall

/-! ## The clock -/

def Clock.readings : Nat → Clock → List Float
  | 0, _ => []
  | n + 1, c => c.read.1 :: readings n c.read.2

def Clock.after : Nat → Clock → Clock
  | 0, c => c
  | n + 1, c => after n c.read.2

theorem Clock.length_readings (n : Nat) (c : Clock) : (c.readings n).length = n := by
  induction n generalizing c with
  | zero => rfl
  | succ n ih => rw [readings, List.length_cons, ih]

theorem Clock.readings_add (m n : Nat) (c : Clock) :
    c.readings (m + n) = c.readings m ++ (c.after m).readings n := by
  induction m generalizing c with
  | zero =>
    rw [Nat.zero_add]
    rfl
  | succ m ih =>
    rw [Nat.succ_add, readings, ih]
    rfl

theorem Clock.after_after (m n : Nat) (c : Clock) : (c.after m).after n = c.after (m + n) := by
  induction m generalizing c with
  | zero =>
    rw [Nat.zero_add]
    rfl
  | succ m ih =>
    rw [Nat.succ_add]
    exact ih _

namespace Logger

/-! ## What comes of a call -/

def logged (r : Logger × List String) : LogOutcome where
  logger := r.1
  result := .ok .done
  records := r.2

def answering (l : Logger) (result : Except LevelError LogAnswer) : LogOutcome where
  logger := l
  result
  records := []

def call (l : Logger) : LogCall → LogOutcome
  | .log level message =>
    match l.logNamed level message with
    | .ok r => logged r
    | .error e => l.answering (.error e)
  | .debug message => logged (l.log .debug message)
  | .info message => logged (l.log .info message)
  | .error message => logged (l.log .error message)
  | .setLevel name =>
    match l.setLevel name with
    | .ok next => next.answering (.ok .done)
    | .error e => l.answering (.error e)
  | .isEnabledFor name => l.answering ((l.isEnabledFor name).map .enabled)

def afterCalls (l : Logger) (calls : List LogCall) : Logger :=
  calls.foldl (fun l c ↦ (l.call c).logger) l

def printed (l : Logger) : List LogCall → List String
  | [] => []
  | c :: calls => (l.call c).records ++ (l.call c).logger.printed calls

/-- The time stamp that a record has at a reading of the clock. -/
def stampAt (l : Logger) (now : Float) : String := "[" ++ Seconds.text (now - l.start) ++ "s]"

/-- The next time stamps, all of them empty if the logger shows none. -/
def stamps (l : Logger) (n : Nat) : List String :=
  if l.timestamps then (l.clock.readings n).map l.stampAt else List.replicate n ""

/-- The logger once it has printed a number of records. -/
def spent (l : Logger) (n : Nat) : Logger :=
  { l with clock := if l.timestamps then l.clock.after n else l.clock }

/-- Records behind the next time stamps. -/
def stamped (l : Logger) (records : List String) : List String :=
  List.zipWith (· ++ ·) (l.stamps records.length) records

/-- The record of an entry without a time stamp. -/
def bare (l : Logger) (e : LogEntry) : String := l.record "" e.level e.message

variable {l : Logger}

theorem length_stamps (l : Logger) (n : Nat) : (l.stamps n).length = n := by
  rw [stamps]
  split
  · rw [List.length_map, Clock.length_readings]
  · rw [List.length_replicate]

theorem length_stamped (l : Logger) (records : List String) :
    (l.stamped records).length = records.length := by
  rw [stamped, List.length_zipWith, length_stamps, Nat.min_self]

theorem stamped_nil (l : Logger) : l.stamped [] = [] := List.zipWith_nil_right

theorem spent_zero (l : Logger) : l.spent 0 = l := by
  rw [spent, Clock.after, ite_self]

theorem spent_spent (l : Logger) (m n : Nat) : (l.spent m).spent n = l.spent (m + n) := by
  rcases htimestamps : l.timestamps with _ | _
  · simp only [spent, htimestamps, Bool.false_eq_true, if_false]
  · simp only [spent, htimestamps, if_true, Clock.after_after]

theorem stamps_add (l : Logger) (m n : Nat) :
    l.stamps (m + n) = l.stamps m ++ (l.spent m).stamps n := by
  rw [stamps, stamps, stamps, spent]
  rcases htimestamps : l.timestamps with _ | _
  · simp only [Bool.false_eq_true, if_false, List.replicate_add]
  · simp only [if_true, Clock.readings_add, List.map_append]
    rfl

theorem stamped_append (l : Logger) (records more : List String) :
    l.stamped (records ++ more) = l.stamped records ++ (l.spent records.length).stamped more := by
  rw [stamped, List.length_append, stamps_add, List.zipWith_append (length_stamps ..)]
  rfl

theorem record_eq_append (l : Logger) (stamp : String) (e : LogEntry) :
    l.record stamp e.level e.message = stamp ++ l.bare e := by
  simp only [bare, record, String.empty_append, String.append_assoc]

theorem log_of_le {e : LogEntry} (h : l.level ≤ e.level) :
    l.log e.level e.message = (l.spent 1, l.stamped [l.bare e]) := by
  have hlets : l.lets e.level = true := decide_eq_true h
  obtain ⟨name, level, colours, timestamps, start, clock⟩ := l
  rcases timestamps with _ | _
  · rw [log, hlets, record_eq_append]
    rfl
  · simp only [log, hlets, if_true, record_eq_append]
    rfl

theorem log_of_not_le {e : LogEntry} (h : ¬l.level ≤ e.level) :
    l.log e.level e.message = (l, []) := by
  have hlets : l.lets e.level = false := decide_eq_false h
  simp only [log, hlets, Bool.false_eq_true, if_false]

theorem log_eq (l : Logger) (e : LogEntry) {passed : List LogEntry}
    (h : passed = [e].filter fun e ↦ l.level ≤ e.level) :
    l.log e.level e.message = (l.spent passed.length, l.stamped (passed.map l.bare)) := by
  by_cases hlevel : l.level ≤ e.level
  · rw [log_of_le hlevel, h, List.filter_singleton, decide_eq_true hlevel]
    rfl
  · rw [log_of_not_le hlevel, h, List.filter_singleton, decide_eq_false hlevel, cond_false,
      List.length_nil, spent_zero, List.map_nil, stamped_nil]

/-- Every call prints the records of what it asks to be logged, if that is grave enough, and sets
the level that it asks for. -/
theorem call_eq (l : Logger) (c : LogCall) {passed : List LogEntry}
    (h : passed = c.entry?.toList.filter fun e ↦ l.level ≤ e.level) :
    (l.call c).logger = { l.spent passed.length with level := c.levelSet?.getD l.level } ∧
      (l.call c).records = l.stamped (passed.map l.bare) := by
  have hlogged (e : LogEntry) (h : passed = [e].filter fun e ↦ l.level ≤ e.level) :
      (logged (l.log e.level e.message)).logger = l.spent passed.length ∧
        (logged (l.log e.level e.message)).records = l.stamped (passed.map l.bare) := by
    rw [l.log_eq e h]
    exact ⟨rfl, rfl⟩
  have hnothing (h : passed = []) :
      l.spent passed.length = l ∧ l.stamped (passed.map l.bare) = [] := by
    rw [h, List.length_nil, spent_zero, List.map_nil, stamped_nil]
    exact ⟨rfl, rfl⟩
  -- the three calls without a level log at a level of their own
  rcases c with ⟨level, message⟩ | message | message | message | name | name
  · rw [call, logNamed]
    rw [LogCall.entry?] at h
    rcases hname : Level.ofName? level with _ | v
    · rw [hname] at h
      rw [(hnothing h).1, (hnothing h).2]
      exact ⟨rfl, rfl⟩
    · rw [hname] at h
      exact hlogged ⟨v, message⟩ h
  · exact hlogged ⟨.debug, message⟩ h
  · exact hlogged ⟨.info, message⟩ h
  · exact hlogged ⟨.error, message⟩ h
  · rw [(hnothing h).1, (hnothing h).2, call, setLevel, LogCall.levelSet?]
    rcases Level.ofName? name with _ | v
    · exact ⟨rfl, rfl⟩
    · exact ⟨rfl, rfl⟩
  · rw [(hnothing h).1, (hnothing h).2]
    exact ⟨rfl, rfl⟩

/-! ## What comes of many calls -/

/-- **The trace of the calls.** What is printed is the entries that are grave enough at their time,
in order, each behind its time stamp. -/
theorem printed_eq_stamped (l : Logger) (calls : List LogCall) :
    l.printed calls = l.stamped ((LogCall.passing l.level calls).map l.bare) := by
  induction calls generalizing l with
  | nil => exact l.stamped_nil.symm
  | cons c calls ih =>
    obtain ⟨hlogger, hrecords⟩ := l.call_eq c rfl
    rw [printed, hrecords, ih, hlogger, LogCall.passing, List.map_append, stamped_append,
      List.length_map]
    rfl

theorem stamped_of_no_timestamps (h : l.timestamps = false) (records : List String) :
    l.stamped records = records := by
  induction records with
  | nil => exact l.stamped_nil
  | cons record records ih =>
    simp only [stamped, stamps, h, Bool.false_eq_true, if_false, List.length_cons,
      List.replicate_succ, List.zipWith_cons_cons, String.empty_append] at ih ⊢
    rw [ih]

theorem printed_of_no_timestamps (h : l.timestamps = false) (calls : List LogCall) :
    l.printed calls = (LogCall.passing l.level calls).map l.bare := by
  rw [printed_eq_stamped, stamped_of_no_timestamps h]

theorem afterCalls_eq (l : Logger) (calls : List LogCall) :
    l.afterCalls calls =
      { l.spent (l.printed calls).length with level := LogCall.levelAfter l.level calls } := by
  induction calls generalizing l with
  | nil =>
    rw [printed, List.length_nil, spent_zero]
    rfl
  | cons c calls ih =>
    obtain ⟨hlogger, hrecords⟩ := l.call_eq c rfl
    have hlength : (l.call c).records.length =
        (c.entry?.toList.filter fun e ↦ l.level ≤ e.level).length := by
      rw [hrecords, length_stamped, List.length_map]
    have hcons : l.afterCalls (c :: calls) = (l.call c).logger.afterCalls calls := rfl
    rw [hcons, ih, LogCall.levelAfter_cons, printed, List.length_append, hlength, ← spent_spent,
      hlogger]
    rfl

/-- As long as it has the higher level, a logger prints a part of what another one of its name
prints, if neither of them shows time stamps. -/
theorem printed_sublist {l' : Logger} (hname : l'.name = l.name) (hlevel : l.level ≤ l'.level)
    (c : Bool) (calls : List LogCall) :
    ({ l' with colours := c, timestamps := false }.printed calls).Sublist
      ({ l with colours := c, timestamps := false }.printed calls) := by
  rw [printed_of_no_timestamps rfl, printed_of_no_timestamps rfl]
  have hbare : { l' with colours := c, timestamps := false }.bare =
      { l with colours := c, timestamps := false }.bare := by
    funext e
    simp only [bare, record, tag, hname]
  rw [hbare]
  exact (LogCall.passing_sublist hlevel calls).map _

/-! ## Single calls -/

theorem exists_bare_eq (l : Logger) (e : LogEntry) :
    ∃ front, l.bare e = front ++ "] " ++ e.message ++ "\n" := by
  refine ⟨l.tag e.level ++ "[" ++ l.name, ?_⟩
  rw [bare, record, String.empty_append]

theorem exists_log_eq {e : LogEntry} (h : l.level ≤ e.level) :
    ∃ front, l.log e.level e.message =
      (l.spent 1, [front ++ "] " ++ e.message ++ "\n"]) := by
  obtain ⟨front, hfront⟩ := l.exists_bare_eq e
  obtain ⟨stamp, hstamp⟩ := List.length_eq_one_iff.mp (l.length_stamps 1)
  refine ⟨stamp ++ front, ?_⟩
  rw [log_of_le h, stamped, List.length_singleton, hstamp, hfront]
  simp only [List.zipWith_cons_cons, List.zipWith_nil_right, String.append_assoc]

/-- **A logger goes by the level that was set last.** A name that is no level is refused wherever
one is needed, and changes nothing. A message is logged in one record if its level is grave enough,
and otherwise not at all; to ask for a level prints nothing. One reading of the clock goes into each
record with a time stamp, and none is lost. A logger of the same name with a higher level prints a
part of the same records, their time stamps and colours aside. -/
theorem filters_every_history (l : Logger) :
    (∀ (name level : String) (colours timestamps : Bool) (clock : Clock),
      (∀ v, Level.Named level v → make? name level colours timestamps clock = .ok
        { name, level := v, colours, timestamps
          start := clock.read.1, clock := clock.read.2 }) ∧
      ((∀ v, ¬Level.Named level v) →
        make? name level colours timestamps clock = .error (.setting level))) ∧
    (∀ calls, l.afterCalls calls =
      { l with
        level := (l.afterCalls calls).level
        clock := if l.timestamps then l.clock.after (l.printed calls).length else l.clock }) ∧
    (∀ calls, (∀ name v, .setLevel name ∈ calls → ¬Level.Named name v) →
      (l.afterCalls calls).level = l.level) ∧
    (∀ before name v after, Level.Named name v →
      (∀ name v, .setLevel name ∈ after → ¬Level.Named name v) →
      (l.afterCalls (before ++ .setLevel name :: after)).level = v) ∧
    (∀ name,
      (∀ v, Level.Named name v →
        l.call (.setLevel name) = { l with level := v }.answering (.ok .done)) ∧
      ((∀ v, ¬Level.Named name v) →
        l.call (.setLevel name) = l.answering (.error (.setting name)))) ∧
    (∀ name message,
      (∀ v, Level.Named name v →
        (l.level ≤ v → ∃ front, l.call (.log name message) =
          { logger := l.spent 1, result := .ok .done
            records := [front ++ "] " ++ message ++ "\n"] }) ∧
        (¬l.level ≤ v → l.call (.log name message) = l.answering (.ok .done))) ∧
      ((∀ v, ¬Level.Named name v) →
        l.call (.log name message) = l.answering (.error .record))) ∧
    (∀ message, l.call (.debug message) = l.call (.log "DEBUG" message) ∧
      l.call (.info message) = l.call (.log "INFO" message) ∧
      l.call (.error message) = l.call (.log "ERROR" message)) ∧
    (∀ name,
      (∀ v, Level.Named name v →
        l.call (.isEnabledFor name) = l.answering (.ok (.enabled (decide (l.level ≤ v))))) ∧
      ((∀ v, ¬Level.Named name v) →
        l.call (.isEnabledFor name) = l.answering (.error .record))) ∧
    (∀ calls, l.printed calls = l.stamped ({ l with timestamps := false }.printed calls)) ∧
    ∀ l' : Logger, l'.name = l.name → l.level ≤ l'.level → ∀ c calls,
      ({ l' with colours := c, timestamps := false }.printed calls).Sublist
        ({ l with colours := c, timestamps := false }.printed calls) := by
  refine ⟨?made, ?after, ?unset, ?set, ?setLevel, ?log, ?levels, ?asked, ?stamps, ?higher⟩
  case made =>
    intro name level colours timestamps clock
    refine ⟨fun v hv ↦ ?_, fun hnone ↦ ?_⟩
    · rw [make?, Level.ofName?_eq_some_iff.mpr hv]
      rfl
    · rw [make?, Level.ofName?_eq_none_iff.mpr hnone]
  case after =>
    intro calls
    rw [afterCalls_eq]
    rfl
  case unset =>
    intro calls h
    rw [afterCalls_eq]
    exact LogCall.levelAfter_of_none h l.level
  case set =>
    intro before name v after hv h
    rw [afterCalls_eq]
    exact LogCall.levelAfter_of_last hv h l.level before
  case setLevel =>
    intro name
    refine ⟨fun v hv ↦ ?_, fun hnone ↦ ?_⟩
    · rw [call, setLevel, Level.ofName?_eq_some_iff.mpr hv]
    · rw [call, setLevel, Level.ofName?_eq_none_iff.mpr hnone]
  case log =>
    intro name message
    refine ⟨fun v hv ↦ ⟨fun hle ↦ ?_, fun hnot ↦ ?_⟩, fun hnone ↦ ?_⟩
    · obtain ⟨front, hlog⟩ := exists_log_eq (e := ⟨v, message⟩) hle
      refine ⟨front, ?_⟩
      rw [call, logNamed, Level.ofName?_eq_some_iff.mpr hv]
      exact congrArg logged hlog
    · rw [call, logNamed, Level.ofName?_eq_some_iff.mpr hv]
      exact congrArg logged (log_of_not_le (e := ⟨v, message⟩) hnot)
    · rw [call, logNamed, Level.ofName?_eq_none_iff.mpr hnone]
  case levels =>
    intro message
    exact ⟨rfl, rfl, rfl⟩
  case asked =>
    intro name
    refine ⟨fun v hv ↦ ?_, fun hnone ↦ ?_⟩
    · rw [call, isEnabledFor, Level.ofName?_eq_some_iff.mpr hv]
      rfl
    · rw [call, isEnabledFor, Level.ofName?_eq_none_iff.mpr hnone]
      rfl
  case stamps =>
    intro calls
    rw [printed_eq_stamped, printed_of_no_timestamps rfl]
    rfl
  case higher =>
    intro l' hname hlevel c calls
    exact printed_sublist hname hlevel c calls

/-- A logger whose level is set and then cannot be set, a level in mixed letters, and a logger that
prints less. -/
theorem filters_every_history_of_plain :
    let l := plain .info
    let calls := [.info "on", .setLevel "Error", .setLevel "loud", .info "off"]
    (l.afterCalls calls).level = .error ∧
      l.call (.setLevel "loud") = l.answering (.error (.setting "loud")) ∧
      (∃ front, l.call (.log "crıtical" "a\nb") =
        { logger := l.spent 1, result := .ok .done, records := [front ++ "] a\nb\n"] }) ∧
      l.call (.log "Debug" "a") = l.answering (.ok .done) ∧
      l.call (.isEnabledFor "warning") = l.answering (.ok (.enabled true)) ∧
      ((plain .critical).printed calls).Sublist (l.printed calls) := by
  intro l calls
  obtain ⟨-, -, -, hset, hsetLevel, hlog, -, hasked, -, hhigher⟩ := l.filters_every_history
  have hloud (v : Level) : ¬Level.Named "loud" v := by
    rcases v <;> decide
  refine ⟨?_, (hsetLevel "loud").2 hloud, ?_, ?_, ?_, ?_⟩
  · refine hset [.info "on"] "Error" .error [.setLevel "loud", .info "off"] (by decide) ?_
    intro name v hmem
    obtain h | h := List.mem_cons.mp hmem
    · obtain rfl := LogCall.setLevel.inj h
      exact hloud v
    · rcases List.mem_singleton.mp h
  · obtain ⟨front, h⟩ := ((hlog "crıtical" "a\nb").1 .critical (by decide)).1 (by decide)
    refine ⟨front, h.trans ?_⟩
    rw [String.append_assoc, String.append_assoc]
    rfl
  · exact ((hlog "Debug" "a").1 .debug (by decide)).2 (by decide)
  · exact (hasked "warning").1 .warning (by decide)
  · exact hhigher (plain .critical) rfl (by decide) false calls

end Logger

end ChipEight
