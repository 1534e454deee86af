import ParkingSystem.Logger

/-!
# What is in the log

`log_is_one_sequence`: the console and every log file show one sequence of messages, each
a part of it and each message whole, whatever the threads do, as long as no `write` comes
up short. `log_lines_iff`: a file then has a line for each message exactly if none of them
was too long for the buffer, because a cut message loses its newline.
-/

namespace ParkingSystem

open Runs (run Along)

-- ---------------------------------------------------------------------------
-- The messages
-- ---------------------------------------------------------------------------

namespace Logged

variable (entry : Logged)

def text : Text := entry.call.finalMessage entry.time

def Fits : Prop := (entry.call.line entry.time).length < loggerMessageMaxSize

instance : Decidable entry.Fits := inferInstanceAs (Decidable (_ < _))

/-- Nothing that the caller logs holds a newline. -/
structure SingleLine : Prop where
  message : 10 ∉ entry.call.message
  file : ∀ source ∈ entry.call.source, 10 ∉ source.1

instance : Decidable entry.SingleLine :=
  decidable_of_iff (10 ∉ entry.call.message ∧ ∀ source ∈ entry.call.source, 10 ∉ source.1)
    ⟨fun ⟨message, file⟩ => ⟨message, file⟩, fun h => ⟨h.message, h.file⟩⟩

def forStderr : Bool := entry.call.level = .error

end Logged

def inFile (log : List Logged) (i : Nat) : List Logged := log.filter (·.file = some i)

def onConsole (log : List Logged) (stderr : Bool) : List Logged :=
  log.filter fun entry => entry.console && entry.forStderr == stderr

def texts (log : List Logged) : Text := log.flatMap Logged.text

-- ---------------------------------------------------------------------------
-- Newlines
-- ---------------------------------------------------------------------------

section Newlines

variable {entry : Logged}

theorem newline_not_mem_decimalText (n : Nat) : 10 ∉ decimalText n := by
  intro h
  obtain ⟨c, hc, hbyte⟩ := List.mem_map.mp h
  have hdigit := Nat.isDigit_of_mem_toDigits (by decide) (by decide) hc
  simp only [Char.isDigit, Bool.and_eq_true, decide_eq_true_eq] at hdigit
  obtain ⟨hlow, hhigh⟩ := hdigit
  have hlow : 48 ≤ c.toNat := UInt32.le_iff_toNat_le.mp hlow
  have hhigh : c.toNat ≤ 57 := UInt32.le_iff_toNat_le.mp hhigh
  have hnat : c.toNat % 256 = 10 := by simpa using congrArg UInt8.toNat hbyte
  omega

theorem newline_not_mem_twoDigits (n : Nat) : 10 ∉ twoDigits n := by
  have hdecimal := newline_not_mem_decimalText n
  unfold twoDigits
  split
  · simpa using hdecimal
  · exact hdecimal

theorem newline_not_mem_loggerGetTimestamp (time : Option Tm) : 10 ∉ loggerGetTimestamp time := by
  cases time with
  | none => decide
  | some tm =>
    simp [loggerGetTimestamp, newline_not_mem_decimalText, newline_not_mem_twoDigits]

theorem line_eq {call : LogCall} (hmessage : 10 ∉ call.message)
    (hfile : ∀ source ∈ call.source, 10 ∉ source.1) (time : Option Tm) :
    ∃ front, call.line time = front ++ [10] ∧ 10 ∉ front := by
  refine ⟨_, rfl, ?_⟩
  have htime := newline_not_mem_loggerGetTimestamp time
  have hlevel : 10 ∉ loggerLevelToString call.level := by
    cases call.level with
    | other raw => exact (by decide : 10 ∉ CString.ofString "UNKWN")
    | _ => decide
  have huser : 10 ∉ snprintf loggerMessageMaxSize call.message :=
    fun h => hmessage (List.mem_of_mem_take h)
  simp only [List.mem_append, not_or]
  refine ⟨⟨⟨⟨⟨htime, by decide⟩, hlevel⟩, by decide⟩, ?_⟩, huser⟩
  cases hs : call.source with
  | none => exact List.not_mem_nil
  | some source =>
    have hname := hfile source hs
    simp [hname, newline_not_mem_decimalText]

/-- A message ends with the only newline in it, or has lost it. -/
theorem Logged.count_newline (h : entry.SingleLine) :
    entry.text.count 10 = if entry.Fits then 1 else 0 := by
  obtain ⟨front, hline, hfront⟩ := line_eq h.message h.file entry.time
  have hcount : front.count 10 = 0 := List.count_eq_zero.mpr hfront
  have hlength : (entry.call.line entry.time).length = front.length + 1 := by
    rw [hline, List.length_append, List.length_singleton]
  have htext : entry.text = (front ++ [10]).take (loggerMessageMaxSize - 1) := by
    rw [text, LogCall.finalMessage, hline, snprintf]
  by_cases hfits : entry.Fits
  · rw [if_pos hfits, htext, List.take_of_length_le, List.count_append, hcount]
    · rfl
    · rw [← hline]
      exact Nat.le_sub_one_of_lt hfits
  · have hlong : loggerMessageMaxSize ≤ front.length + 1 := hlength ▸ Nat.le_of_not_lt hfits
    rw [if_neg hfits, htext, List.take_append_of_le_length (by omega)]
    exact List.count_eq_zero.mpr fun hmem => hfront (List.mem_of_mem_take hmem)

theorem count_newline_texts {log : List Logged} (h : ∀ entry ∈ log, entry.SingleLine) :
    (texts log).count 10 = log.countP fun entry => entry.Fits := by
  induction log with
  | nil => rfl
  | cons entry log ih =>
    obtain ⟨hentry, hlog⟩ := List.forall_mem_cons.mp h
    show (entry.text ++ texts log).count 10 = _
    rw [List.count_append, ih hlog, Logged.count_newline hentry, List.countP_cons, Nat.add_comm]
    simp

theorem Logged.line_eq_of_not_fits (h : ¬ entry.Fits) :
    ∃ lost, lost ≠ [] ∧ entry.call.line entry.time = entry.text ++ lost := by
  have hlong : loggerMessageMaxSize ≤ (entry.call.line entry.time).length := Nat.le_of_not_lt h
  refine ⟨(entry.call.line entry.time).drop (loggerMessageMaxSize - 1), fun hnone => ?_,
    (List.take_append_drop ..).symm⟩
  have hshort := List.drop_eq_nil_iff.mp hnone
  simp only [loggerMessageMaxSize] at hlong hshort
  omega

end Newlines

-- ---------------------------------------------------------------------------
-- One sequence
-- ---------------------------------------------------------------------------

namespace Logger

variable {τ : Type}

/-- Every `write` takes all it is given. -/
def Whole (s : Logger τ) : LoggerEvent τ → Prop
  | .thread t (.put count) =>
    match s.pc t with
    | .writeConsole call time | .writeFile call time _ => (call.finalMessage time).length ≤ count
    | _ => True
  | _ => True

instance (s : Logger τ) (e : LoggerEvent τ) : Decidable (s.Whole e) := by
  unfold Whole
  split
  · split <;> infer_instance
  · infer_instance

def console (s : Logger τ) (stderr : Bool) : Text := if stderr then s.stderr else s.stdout

/-- The streams show the messages handed out and, on the console, the one that is on its
way to the file. -/
structure Shows (s : Logger τ) (onTheWay : List Logged) : Prop where
  file : ∀ i, s.file i = texts (inFile s.log i)
  console : ∀ stderr, s.console stderr = texts (onConsole (s.log ++ onTheWay) stderr)
  handing : ∀ t call time, (s.pc t).handing = some (call, time, true) →
    onTheWay = [⟨call, time, true, none⟩]
  nobody : (∀ t call time, (s.pc t).handing ≠ some (call, time, true)) → onTheWay = []

section Streams

variable {s s' : Logger τ} {t : τ} {onTheWay : List Logged}

theorem start_shows : (start : Logger τ).Shows [] where
  file _ := rfl
  console stderr := by cases stderr <;> rfl
  handing t call time h := by cases h
  nobody _ := rfl

theorem Shows.frame (h : s.Shows onTheWay) (hfile : s'.file = s.file)
    (hstdout : s'.stdout = s.stdout) (hstderr : s'.stderr = s.stderr) (hlog : s'.log = s.log)
    (hpc : ∀ x, (s'.pc x).handing = (s.pc x).handing) : s'.Shows onTheWay where
  file i := by rw [hfile, hlog, h.file]
  console stderr := by
    rw [hlog, ← h.console]
    simp only [Logger.console, hstdout, hstderr]
  handing x call time hx := h.handing x call time ((hpc x).symm.trans hx)
  nobody hnobody := h.nobody fun x call time hx => hnobody x call time ((hpc x).trans hx)

theorem holds_of_handing {pc : LoggerPc} {message : LogCall × Option Tm × Bool}
    (h : pc.handing = some message) : pc.holds = true := by
  cases pc with
  | writeFile => rfl
  | _ => cases h

theorem Shows.nobody_of_holds (h : s.Shows onTheWay) (hmutex : s.Exclusive)
    (hholds : (s.pc t).holds = true) (hnot : ∀ call time, (s.pc t).handing ≠ some (call, time, true)) :
    onTheWay = [] := by
  refine h.nobody fun x call time hx => ?_
  obtain rfl := hmutex.alone hholds (holds_of_handing hx)
  exact hnot call time hx

theorem handing_of_not_holds {pc : LoggerPc} (h : pc.holds = false) : pc.handing = none := by
  cases pc with
  | writeFile => cases h
  | _ => rfl

theorem texts_append (log more : List Logged) : texts (log ++ more) = texts log ++ texts more := by
  simp [texts]

theorem inFile_append (log more : List Logged) (i : Nat) :
    inFile (log ++ more) i = inFile log i ++ inFile more i := by
  simp [inFile]

theorem onConsole_append (log more : List Logged) (stderr : Bool) :
    onConsole (log ++ more) stderr = onConsole log stderr ++ onConsole more stderr := by
  simp [onConsole]

theorem console_putConsole (level : LogLevel) (bytes : Text) (stderr : Bool) :
    (s.putConsole level bytes).console stderr =
      s.console stderr ++ if decide (level = .error) == stderr then bytes else [] := by
  unfold Logger.console putConsole
  by_cases hlevel : level = .error <;> cases stderr <;> simp [hlevel]

theorem file_putLog (bytes : Text) (i : Nat) : (s.putLog bytes).file i =
    s.file i ++ if s.logFd.bind s.files.opening = some i then bytes else [] := by
  unfold putLog
  cases hopen : s.logFd.bind s.files.opening with
  | none => simp
  | some j =>
    by_cases hij : i = j
    · subst hij
      simp
    · simp [Function.update_of_ne hij, Ne.symm hij]

variable [DecidableEq τ] {a : LoggerAction} {e : LoggerEvent τ} {pc : LoggerPc}

theorem goto_pc (x : τ) : (s.goto t pc).pc x = if x = t then pc else s.pc x :=
  Function.update_apply ..

theorem handing_update {pcs : τ → LoggerPc} (hbefore : (pcs t).handing = none)
    (hafter : pc.handing = none) (x : τ) :
    (Function.update pcs t pc x).handing = (pcs x).handing := by
  by_cases hx : x = t
  · subst hx
    rw [Function.update_self, hbefore, hafter]
  · rw [Function.update_of_ne hx]

theorem Shows.console_put {call : LogCall} {time : Option Tm} (h : s.Shows onTheWay)
    (hmutex : s.Exclusive) (hpc : s.pc t = .writeConsole call time) :
    ((s.putConsole call.level (call.finalMessage time)).goto t (.writeFile call time true)).Shows
      [⟨call, time, true, none⟩] := by
  have hholds : (s.pc t).holds = true := by rw [hpc]; rfl
  have hnobody := h.nobody_of_holds hmutex hholds fun call time => by rw [hpc]; exact nofun
  obtain ⟨-, hpcs, hfile, hlog⟩ := putConsole_same (s := s) call.level (call.finalMessage time)
  refine ⟨fun i => ?_, fun stderr => ?_, fun x call' time' hx => ?_, fun hnobody => ?_⟩
  · show (s.putConsole _ _).file i = texts (inFile (s.putConsole _ _).log i)
    rw [hfile, hlog, h.file]
  · show (s.putConsole _ _).console stderr = texts (onConsole ((s.putConsole _ _).log ++ _) stderr)
    rw [console_putConsole, hlog, h.console, hnobody, List.append_nil, onConsole_append, texts_append]
    congr 1
    simp only [onConsole, List.filter_cons, Logged.forStderr, Bool.true_and]
    split <;> simp [texts, Logged.text]
  · rw [goto_pc, hpcs] at hx
    split at hx
    · cases hx
      rfl
    · exact absurd (hmutex.alone hholds (holds_of_handing hx)) ‹_›
  · refine absurd ?_ (hnobody t call time)
    rw [goto_pc, if_pos rfl]
    rfl

theorem Shows.noConsole {call : LogCall} {time : Option Tm} (h : s.Shows onTheWay)
    (hmutex : s.Exclusive) (hpc : s.pc t = .writeConsole call time) :
    (s.goto t (.writeFile call time false)).Shows [] := by
  have hholds : (s.pc t).holds = true := by rw [hpc]; rfl
  have hnobody := h.nobody_of_holds hmutex hholds fun call time => by rw [hpc]; exact nofun
  refine ⟨h.file, fun stderr => ?_, fun x call' time' hx => ?_, fun _ => rfl⟩
  · rw [← hnobody]
    exact h.console stderr
  · rw [goto_pc] at hx
    split at hx
    · cases hx
    · exact absurd (hmutex.alone hholds (holds_of_handing hx)) ‹_›

theorem Shows.file_put {call : LogCall} {time : Option Tm} {console : Bool} (h : s.Shows onTheWay)
    (hmutex : s.Exclusive) (hpc : s.pc t = .writeFile call time console) :
    (((s.putLog (call.finalMessage time)).record
      ⟨call, time, console, s.logFd.bind s.files.opening⟩).goto t .writeUnlock).Shows [] := by
  have hholds : (s.pc t).holds = true := by rw [hpc]; rfl
  obtain ⟨-, hpcs, hstdout, hstderr, hlog⟩ := putLog_same (s := s) (call.finalMessage time)
  refine ⟨fun i => ?_, fun stderr => ?_, fun x call' time' hx => ?_, fun _ => rfl⟩
  · show (s.putLog _).file i = texts (inFile ((s.putLog _).log ++ _) i)
    rw [file_putLog, h.file, hlog, inFile_append, texts_append]
    congr 1
    simp only [inFile, List.filter_cons, decide_eq_true_eq, List.filter_nil]
    split <;> simp [texts, Logged.text]
  · show (if stderr then (s.putLog _).stderr else (s.putLog _).stdout) =
      texts (onConsole ((s.putLog _).log ++ _ ++ []) stderr)
    rw [hstdout, hstderr, hlog, List.append_nil, onConsole_append, texts_append]
    refine (h.console stderr).trans ?_
    rw [onConsole_append, texts_append]
    congr 1
    cases console with
    | true =>
      rw [h.handing t call time (by rw [hpc]; rfl)]
      simp only [onConsole, List.filter_cons, Logged.forStderr]
      split <;> rfl
    | false =>
      rw [h.nobody_of_holds hmutex hholds fun call time => by rw [hpc]; exact nofun]
      rfl
  · rw [goto_pc] at hx
    split at hx
    · cases hx
    · have hx' : (s.pc x).handing = some (call', time', true) := by
        rw [← hpcs]
        exact hx
      exact absurd (hmutex.alone hholds (holds_of_handing hx')) ‹_›

theorem Shows.threadStep (h : s.Shows onTheWay) (hmutex : s.Exclusive)
    (hwhole : s.Whole (.thread t a)) (hs : s.threadStep t a = some s') :
    ∃ onTheWay', s'.Shows onTheWay' := by
  cases moves_of_threadStep hs with
  | quiet _ _ pc same place outside outside' =>
    refine ⟨onTheWay, h.frame same.file same.stdout same.stderr same.log fun x => ?_⟩
    rw [place]
    exact handing_update (handing_of_not_holds outside) (handing_of_not_holds outside') x
  | locked pc mutex _ outside _ _ handing =>
    exact ⟨onTheWay, h.frame rfl rfl rfl rfl (handing_update (handing_of_not_holds outside) handing)⟩
  | unlocked pc mutex _ _ handing outside =>
    exact ⟨onTheWay, h.frame rfl rfl rfl rfl (handing_update handing (handing_of_not_holds outside))⟩
  | closed pc _ _ handing handing' =>
    have hsame := closeLog_unwritten (s := s)
    refine ⟨onTheWay, h.frame hsame.file hsame.stdout hsame.stderr hsame.log fun x => ?_⟩
    show (Function.update s.closeLog.pc t pc x).handing = _
    rw [hsame.pc]
    exact handing_update handing handing' x
  | opened descriptor s₁ place opens =>
    have hsame := openLog_unwritten opens
    refine ⟨onTheWay, h.frame hsame.file hsame.stdout hsame.stderr hsame.log fun x => ?_⟩
    show (Function.update s₁.pc t _ x).handing = _
    rw [hsame.pc]
    exact handing_update (by rw [place]; rfl) rfl x
  | console call time count place =>
    rw [List.take_of_length_le (by simpa only [Whole, place] using hwhole)]
    exact ⟨_, h.console_put hmutex place⟩
  | noConsole call time count place => exact ⟨[], h.noConsole hmutex place⟩
  | file call time console count place =>
    rw [List.take_of_length_le (by simpa only [Whole, place] using hwhole)]
    exact ⟨[], h.file_put hmutex place⟩

theorem Shows.step (h : s.Shows onTheWay) (hmutex : s.Exclusive) (hwhole : s.Whole e)
    (hs : s.step e = some s') : (∃ onTheWay', s'.Shows onTheWay') ∧ s'.Exclusive := by
  cases e with
  | thread t a => exact ⟨h.threadStep hmutex hwhole hs, hmutex.threadStep hs⟩
  | otherOpen d =>
    simp only [Logger.step] at hs
    split at hs
    · cases hs
    · cases hs
      exact ⟨⟨onTheWay, h.frame rfl rfl rfl rfl fun _ => rfl⟩, hmutex⟩
  | otherClose d =>
    simp only [Logger.step] at hs
    split at hs
    · cases hs
      exact ⟨⟨onTheWay, h.frame rfl rfl rfl rfl fun _ => rfl⟩, hmutex⟩
    · cases hs
      exact ⟨⟨onTheWay, h⟩, hmutex⟩

end Streams

section Log

variable [DecidableEq τ]

theorem shows_of_run {events : List (LoggerEvent τ)} {s : Logger τ}
    (hr : run step start events = some s) (hwhole : Along step Whole start events) :
    (∃ onTheWay, s.Shows onTheWay) ∧ s.Exclusive :=
  Runs.invariant_along (I := fun s : Logger τ => (∃ onTheWay, s.Shows onTheWay) ∧ s.Exclusive)
    (fun _ _ _ ⟨⟨_, h⟩, hmutex⟩ hw hs => h.step hmutex hw hs) ⟨⟨[], start_shows⟩, start_exclusive⟩ hr
    hwhole

/-- A log file has as many lines as messages exactly if every message fits the buffer; one
that does not has lost its end, and the newline with it. -/
theorem log_lines_iff (events : List (LoggerEvent τ)) (s : Logger τ)
    (hr : run step start events = some s) (hwhole : Along step Whole start events)
    (hlines : ∀ entry ∈ s.log, entry.SingleLine) (i : Nat) :
    ((s.file i).count 10 = (inFile s.log i).length ↔ ∀ entry ∈ inFile s.log i, entry.Fits) ∧
    ∀ entry ∈ inFile s.log i, ¬ entry.Fits →
      10 ∉ entry.text ∧ ∃ lost, lost ≠ [] ∧ entry.call.line entry.time = entry.text ++ lost := by
  obtain ⟨⟨onTheWay, h⟩, -⟩ := shows_of_run hr hwhole
  have hlines (entry : Logged) (hentry : entry ∈ inFile s.log i) : entry.SingleLine :=
    hlines entry (List.mem_of_mem_filter hentry)
  refine ⟨?_, fun entry hentry hcut => ⟨?_, Logged.line_eq_of_not_fits hcut⟩⟩
  · rw [h.file, count_newline_texts hlines, List.countP_eq_length]
    simp
  · have hnone := Logged.count_newline (hlines entry hentry)
    rw [if_neg hcut] at hnone
    exact List.count_eq_zero.mp hnone

end Log

/-- A message too long for the buffer, and a short one. -/
def cutEvents : List (LoggerEvent Nat) :=
  initEvents false 3 ++
  [List.replicate 1023 65, [66]].flatMap fun message =>
    [.write (some ⟨.info, none, message⟩), .next, .format none, .next, .put 2000, .put 2000,
     .next].map (.thread 1)

def cutLog : Logger Nat := (run step start cutEvents).get (by decide +kernel)

theorem log_lines_iff_cut : ¬ (cutLog.file 0).count 10 = (inFile cutLog.log 0).length :=
  fun h => absurd ((log_lines_iff cutEvents cutLog (Option.some_get _).symm (by decide +kernel)
    (by decide +kernel) 0).1.mp h) (by decide +kernel)

end Logger

end ParkingSystem
