import Mathlib.Data.List.Basic
import PicoScripts.Base.Text

/-!
# The type summaries of `lldb_formatters.py`

`src/script/debug/lldb_formatters.py`. LLDB shows a kernel structure by calling the summary
function registered for its type with an `SBValue`. Each function reads members with
`GetChildMemberWithName(name).GetValueAsUnsigned()`, which gives `0` for a member that does
not exist, and formats them. `kwork_summary` names the state, operation and result of a
work item from its tables and shows only the `STANDING` bit of its flags: two items have
the same summary exactly when they agree on those (`kworkSummary_eq_iff`), and the request
summaries add their own members in front of it. `platform_summary` prints the MAC address
as six two-digit hexadecimal bytes, which read back as the address.

The module never imports `lldb`, so the `lldb.SBError()` that `count_list` evaluates for
`kernel_summary` raises `NameError`: the summary of a kernel shows that error instead of
its queue depths whenever one of its queues is not empty. Nothing else in the `try` blocks
raises on the values LLDB hands over, so their handlers are not modelled; neither is
`__lldb_init_module`, which only registers the functions.
-/

namespace PicoScripts.Debug

/-- A child of a value: a member by name, or an element by index. -/
inductive Child
  | member (name : List Char)
  | index (i : Nat)
  deriving DecidableEq

/-- An `lldb.SBValue` as the summaries read it: whether it is valid, its scalar value as
`GetValueAsUnsigned` reads it into a `uint64_t` where it has one, and its children. -/
inductive SBValue
  | mk (valid : Bool) (scalar : Option UInt64) (children : List (Child × SBValue))

namespace SBValue

/-- The invalid value LLDB gives for a child that does not exist. -/
def invalid : SBValue := mk false none []

/-- `IsValid()`. -/
def isValid : SBValue → Bool
  | mk valid _ _ => valid

/-- `GetValueAsUnsigned()`: the scalar value, or `0` where there is none. -/
def getValueAsUnsigned : SBValue → Nat
  | mk _ scalar _ => (scalar.map UInt64.toNat).getD 0

/-- The child at `c`, or the invalid value. -/
def child (c : Child) : SBValue → SBValue
  | mk _ _ children => (children.lookup c).getD invalid

/-- `GetChildMemberWithName(name)`. -/
def getChildMemberWithName (v : SBValue) (name : List Char) : SBValue := v.child (.member name)

/-- `GetChildAtIndex(i)`. -/
def getChildAtIndex (v : SBValue) (i : Nat) : SBValue := v.child (.index i)

/-- `GetChildMemberWithName(name).GetValueAsUnsigned()`, the read every summary makes. -/
def unsignedMember (v : SBValue) (name : List Char) : Nat :=
  (v.getChildMemberWithName name).getValueAsUnsigned

end SBValue

/-! ### Work items and requests -/

/-- `states` of `kwork_summary`. -/
def states : List (Nat × List Char) :=
  [(0, "DEAD".toList), (1, "SUBMIT_REQUESTED".toList), (2, "LIVE".toList), (3, "READY".toList),
    (4, "CANCEL_REQUESTED".toList)]

/-- `ops` of `kwork_summary`. -/
def ops : List (Nat × List Char) :=
  [(1, "TIMER".toList), (2, "RNG_READ".toList), (3, "BLOCK_READ".toList),
    (4, "BLOCK_WRITE".toList), (5, "BLOCK_FLUSH".toList), (6, "NET_RECV".toList),
    (7, "NET_SEND".toList)]

/-- `err_names` of `kwork_summary`. -/
def errNames : List (Nat × List Char) :=
  [(0, "OK".toList), (1, "BUSY".toList), (2, "INVALID".toList), (3, "CANCELLED".toList),
    (4, "TIMEOUT".toList), (5, "NO_DEVICE".toList), (6, "IO_ERROR".toList),
    (7, "NO_SPACE".toList)]

/-- `f'UNKNOWN({n})'`. -/
def unknown (n : Nat) : List Char := "UNKNOWN(".toList ++ Nat.toDigits 10 n ++ [')']

/-- The flags text of `kwork_summary`: the names of the flags set, joined by `|`, or
`NONE`. -/
def flagsText (flags : Nat) : List Char :=
  let flagParts := if flags &&& 1 ≠ 0 then ["STANDING".toList] else []
  if flagParts = [] then "NONE".toList else List.intercalate ['|'] flagParts

/-- `states.get(state_val, f'UNKNOWN({state_val})')`. -/
def stateName (n : Nat) : List Char := (states.lookup n).getD (unknown n)

/-- `ops.get(op_val, f'UNKNOWN({op_val})')`. -/
def opName (n : Nat) : List Char := (ops.lookup n).getD (unknown n)

/-- `err_names.get(result_val, f'{result_val}')`. -/
def resultName (n : Nat) : List Char := (errNames.lookup n).getD (Nat.toDigits 10 n)

/-- `kwork_summary` (`lldb_formatters.py:9-62`). -/
def kworkSummary (v : SBValue) : List Char :=
  let stateVal := v.unsignedMember "state".toList
  let opVal := v.unsignedMember "op".toList
  let resultVal := v.unsignedMember "result".toList
  let flagsVal := v.unsignedMember "flags".toList
  "kwork_t(op=".toList ++ opName opVal ++ ", state=".toList ++ stateName stateVal ++
    ", result=".toList ++ resultName resultVal ++ ", flags=".toList ++ flagsText flagsVal ++
    ")".toList

/-- A member a request summary shows: its label, the member it reads, and the unit printed
after the value. -/
structure Shown where
  label : List Char
  member : List Char
  unit : List Char

/-- How a request summary shows a member: `label=value` with its unit, then `, `. -/
def shownText (v : SBValue) (f : Shown) : List Char :=
  f.label ++ "=".toList ++ Nat.toDigits 10 (v.unsignedMember f.member) ++ f.unit ++ ", ".toList

/-- The summaries of the request types (`lldb_formatters.py:65-131`): the type's name, the
members it shows, then the summary of the embedded work item. -/
def requestSummary (typeName : List Char) (fields : List Shown) (v : SBValue) : List Char :=
  let workSummary := kworkSummary (v.getChildMemberWithName "work".toList)
  typeName ++ "(".toList ++ (fields.map (shownText v)).flatten ++ workSummary ++ ")".toList

/-- `ktimer_summary` (`lldb_formatters.py:65-76`). -/
def ktimerSummary : SBValue → List Char :=
  requestSummary "ktimer_req_t".toList [⟨"deadline".toList, "deadline_ms".toList, "ms".toList⟩]

/-- `krng_req_summary` (`lldb_formatters.py:79-90`). -/
def krngReqSummary : SBValue → List Char :=
  requestSummary "krng_req_t".toList
    [⟨"len".toList, "length".toList, []⟩, ⟨"completed".toList, "completed".toList, []⟩]

/-- `kblk_req_summary` (`lldb_formatters.py:93-103`). -/
def kblkReqSummary : SBValue → List Char :=
  requestSummary "kblk_req_t".toList [⟨"segments".toList, "num_segments".toList, []⟩]

/-- `knet_recv_req_summary` (`lldb_formatters.py:106-117`). -/
def knetRecvReqSummary : SBValue → List Char :=
  requestSummary "knet_recv_req_t".toList
    [⟨"bufs".toList, "num_buffers".toList, []⟩, ⟨"cur".toList, "buffer_index".toList, []⟩]

/-- `knet_send_req_summary` (`lldb_formatters.py:120-131`). -/
def knetSendReqSummary : SBValue → List Char :=
  requestSummary "knet_send_req_t".toList
    [⟨"pkts".toList, "num_packets".toList, []⟩, ⟨"sent".toList, "packets_sent".toList, []⟩]

/-! ### What the summaries tell apart -/

private theorem append_cons_inj {c : Char} :
    ∀ {x y r s : List Char}, c ∉ x → c ∉ y → x ++ c :: r = y ++ c :: s → x = y ∧ r = s
  | [], [], _, _, _, _, h => ⟨rfl, by simpa using h⟩
  | [], d :: y, _, _, _, hy, h => by
    simp only [List.nil_append, List.cons_append, List.cons.injEq] at h
    exact absurd (h.1 ▸ List.mem_cons_self _ _) hy
  | d :: x, [], _, _, hx, _, h => by
    simp only [List.nil_append, List.cons_append, List.cons.injEq] at h
    exact absurd (h.1 ▸ List.mem_cons_self _ _) hx
  | d :: x, e :: y, r, s, hx, hy, h => by
    simp only [List.cons_append, List.cons.injEq] at h
    obtain ⟨rfl, h⟩ := h
    obtain ⟨rfl, rfl⟩ := append_cons_inj (fun hm => hx (List.mem_cons_of_mem _ hm))
      (fun hm => hy (List.mem_cons_of_mem _ hm)) h
    exact ⟨rfl, rfl⟩

private theorem mem_of_lookup {table : List (Nat × List Char)} {n : Nat} {x : List Char}
    (h : table.lookup n = some x) : (n, x) ∈ table := by
  obtain ⟨l₁, l₂, rfl, -⟩ := List.lookup_eq_some_iff.mp h
  exact List.mem_append_right _ (List.mem_cons_self _ _)

private theorem lookup_getD_inj {table : List (Nat × List Char)} {default : Nat → List Char}
    (hnames : (table.map Prod.snd).Nodup) (hdef : ∀ m n, default m = default n → m = n)
    (hname : ∀ p ∈ table, ∀ n, default n ≠ p.2) {m n : Nat}
    (h : (table.lookup m).getD (default m) = (table.lookup n).getD (default n)) : m = n := by
  cases hm : table.lookup m with
  | none =>
    cases hn : table.lookup n with
    | none => simp only [hm, hn, Option.getD_none] at h; exact hdef m n h
    | some y =>
      simp only [hm, hn, Option.getD_none, Option.getD_some] at h
      exact absurd h (hname _ (mem_of_lookup hn) m)
  | some x =>
    cases hn : table.lookup n with
    | none =>
      simp only [hm, hn, Option.getD_none, Option.getD_some] at h
      exact absurd h.symm (hname _ (mem_of_lookup hm) n)
    | some y =>
      simp only [hm, hn, Option.getD_some] at h
      subst h
      exact (Prod.mk.inj (List.inj_on_of_nodup_map hnames (mem_of_lookup hm) (mem_of_lookup hn)
        rfl)).1

private theorem comma_not_mem_toDigits (n : Nat) : ',' ∉ Nat.toDigits 10 n := fun h => by
  have := digitsOf_toDigits (b := 10) (by decide) (by decide) n ',' h
  exact absurd this (by decide)

private theorem comma_not_mem_lookup {table : List (Nat × List Char)} {d : List Char} {n : Nat}
    (ht : ∀ p ∈ table, ',' ∉ p.2) (hd : ',' ∉ d) : ',' ∉ (table.lookup n).getD d := by
  cases h : table.lookup n with
  | none => exact hd
  | some x => exact ht _ (mem_of_lookup h)

private theorem unknown_inj {m n : Nat} (h : unknown m = unknown n) : m = n :=
  toDigits_injective (by decide) (by decide)
    (List.append_cancel_left (List.append_cancel_right h))

private theorem head_unknown (n : Nat) : (unknown n).head? = some 'U' := rfl

private theorem comma_not_mem_unknown (n : Nat) : ',' ∉ unknown n := by
  simp only [unknown, List.mem_append, not_or]
  exact ⟨⟨by decide, comma_not_mem_toDigits n⟩, by decide⟩

private theorem stateName_inj {m n : Nat} (h : stateName m = stateName n) : m = n :=
  lookup_getD_inj (by decide) (fun _ _ => unknown_inj)
    (fun p hp n he => absurd (head_unknown n)
      (he ▸ (by decide : ∀ p ∈ states, p.2.head? ≠ some 'U') p hp)) h

private theorem opName_inj {m n : Nat} (h : opName m = opName n) : m = n :=
  lookup_getD_inj (by decide) (fun _ _ => unknown_inj)
    (fun p hp n he => absurd (head_unknown n)
      (he ▸ (by decide : ∀ p ∈ ops, p.2.head? ≠ some 'U') p hp)) h

private theorem resultName_inj {m n : Nat} (h : resultName m = resultName n) : m = n := by
  refine lookup_getD_inj (by decide)
    (fun _ _ hd => toDigits_injective (by decide : 2 ≤ 10) (by decide : 10 ≤ 16) hd)
    (fun p hp n he => ?_) h
  cases hd : Nat.toDigits 10 n with
  | nil => exact toDigits_ne_nil 10 n hd
  | cons c cs =>
    have hlt := digitsOf_toDigits (b := 10) (by decide) (by decide) n c
      (hd ▸ List.mem_cons_self _ _)
    have hge := (by decide : ∀ p ∈ errNames, ∀ c ∈ p.2.head?, 10 ≤ digitValue c) p hp c
      (by rw [← he, hd]; rfl)
    omega

private theorem flagsText_eq (f : Nat) :
    flagsText f = if f % 2 = 1 then "STANDING".toList else "NONE".toList := by
  rw [flagsText, Nat.and_one_is_mod]
  rcases Nat.mod_two_eq_zero_or_one f with h | h <;> simp [h, List.intercalate]

private theorem flagsText_inj {f g : Nat} (h : flagsText f = flagsText g) : f % 2 = g % 2 := by
  rw [flagsText_eq, flagsText_eq] at h
  rcases Nat.mod_two_eq_zero_or_one f with hf | hf <;>
    rcases Nat.mod_two_eq_zero_or_one g with hg | hg <;> simp [hf, hg] at h ⊢

private theorem kworkSummary_eq (v : SBValue) :
    kworkSummary v = "kwork_t(op=".toList ++ (opName (v.unsignedMember "op".toList) ++
      ',' :: (" state=".toList ++ (stateName (v.unsignedMember "state".toList) ++
      ',' :: (" result=".toList ++ (resultName (v.unsignedMember "result".toList) ++
      ',' :: (" flags=".toList ++ (flagsText (v.unsignedMember "flags".toList) ++ [')']))))))) := by
  simp only [kworkSummary, List.append_assoc]
  rfl

/-- `kwork_summary` shows exactly a work item's operation, state and result and the
`STANDING` bit of its flags: two items have the same summary if and only if they agree on
these. -/
theorem kworkSummary_eq_iff (a b : SBValue) :
    kworkSummary a = kworkSummary b ↔
      a.unsignedMember "op".toList = b.unsignedMember "op".toList ∧
      a.unsignedMember "state".toList = b.unsignedMember "state".toList ∧
      a.unsignedMember "result".toList = b.unsignedMember "result".toList ∧
      a.unsignedMember "flags".toList % 2 = b.unsignedMember "flags".toList % 2 := by
  constructor
  · intro h
    rw [kworkSummary_eq, kworkSummary_eq] at h
    have hop := append_cons_inj (comma_not_mem_lookup (by decide) (comma_not_mem_unknown _))
      (comma_not_mem_lookup (by decide) (comma_not_mem_unknown _)) (List.append_cancel_left h)
    have hst := append_cons_inj (comma_not_mem_lookup (by decide) (comma_not_mem_unknown _))
      (comma_not_mem_lookup (by decide) (comma_not_mem_unknown _)) (List.append_cancel_left hop.2)
    have hres := append_cons_inj (comma_not_mem_lookup (by decide) (comma_not_mem_toDigits _))
      (comma_not_mem_lookup (by decide) (comma_not_mem_toDigits _)) (List.append_cancel_left hst.2)
    exact ⟨opName_inj hop.1, stateName_inj hst.1, resultName_inj hres.1,
      flagsText_inj (List.append_cancel_right (List.append_cancel_left hres.2))⟩
  · rintro ⟨hop, hst, hres, hfl⟩
    simp only [kworkSummary, hop, hst, hres, flagsText_eq, hfl]

private theorem comma_not_mem_shown (v : SBValue) (f : Shown) (hu : ',' ∉ f.unit) :
    ',' ∉ Nat.toDigits 10 (v.unsignedMember f.member) ++ f.unit := by
  simp only [List.mem_append, not_or]
  exact ⟨comma_not_mem_toDigits _, hu⟩

private theorem shownText_append (v : SBValue) (f : Shown) (r : List Char) :
    shownText v f ++ r = (f.label ++ "=".toList) ++
      ((Nat.toDigits 10 (v.unsignedMember f.member) ++ f.unit) ++ ',' :: ' ' :: r) := by
  simp only [shownText, List.append_assoc]
  rfl

private theorem shownText_inj {fields : List Shown} (hunits : ∀ f ∈ fields, ',' ∉ f.unit)
    {a b : SBValue} {r s : List Char}
    (h : (fields.map (shownText a)).flatten ++ r = (fields.map (shownText b)).flatten ++ s) :
    (∀ f ∈ fields, a.unsignedMember f.member = b.unsignedMember f.member) ∧ r = s := by
  induction fields with
  | nil => exact ⟨fun f hf => absurd hf (List.not_mem_nil f), by simpa using h⟩
  | cons f fs ih =>
    rw [List.map_cons, List.map_cons, List.flatten_cons, List.flatten_cons, List.append_assoc,
      List.append_assoc, shownText_append, shownText_append] at h
    have hu := hunits f (List.mem_cons_self _ _)
    have hf := append_cons_inj (comma_not_mem_shown a f hu) (comma_not_mem_shown b f hu)
      (List.append_cancel_left h)
    have hrest := ih (fun g hg => hunits g (List.mem_cons_of_mem _ hg)) (List.cons.inj hf.2).2
    refine ⟨fun g hg => ?_, hrest.2⟩
    rcases List.mem_cons.mp hg with rfl | hg
    · exact toDigits_injective (by decide) (by decide) (List.append_cancel_right hf.1)
    · exact hrest.1 g hg

private theorem requestSummary_assoc (typeName : List Char) (fields : List Shown) (v : SBValue) :
    requestSummary typeName fields v = typeName ++ ("(".toList ++
      ((fields.map (shownText v)).flatten ++
        (kworkSummary (v.getChildMemberWithName "work".toList) ++ ")".toList))) := by
  simp only [requestSummary, List.append_assoc]

/-- A timer request whose only member is a deadline of 5 ms. -/
def timerDueAtFive : SBValue :=
  .mk true none [(.member "deadline_ms".toList, .mk true (some 5) [])]

/-- A request summary whose units hold no comma shows exactly the members it lists and what
`kwork_summary` shows of the embedded work item: two requests have the same summary if and
only if they agree on these. -/
theorem requestSummary_eq_iff (typeName : List Char) (fields : List Shown)
    (hunits : ∀ f ∈ fields, ',' ∉ f.unit) (a b : SBValue) :
    requestSummary typeName fields a = requestSummary typeName fields b ↔
      (∀ f ∈ fields, a.unsignedMember f.member = b.unsignedMember f.member) ∧
      kworkSummary (a.getChildMemberWithName "work".toList) =
        kworkSummary (b.getChildMemberWithName "work".toList) := by
  constructor
  · intro h
    rw [requestSummary_assoc, requestSummary_assoc] at h
    have := shownText_inj hunits (List.append_cancel_left (List.append_cancel_left h))
    exact ⟨this.1, List.append_cancel_right this.2⟩
  · rintro ⟨hf, hw⟩
    have hmap : fields.map (shownText a) = fields.map (shownText b) :=
      List.map_congr_left fun f hm => by simp only [shownText, hf f hm]
    simp only [requestSummary, hmap, hw]

/-- An empty value and a timer request due at 5 ms have different timer summaries, as their
deadlines differ. -/
theorem requestSummary_eq_iff_ktimer :
    (∀ f ∈ [(⟨"deadline".toList, "deadline_ms".toList, "ms".toList⟩ : Shown)], ',' ∉ f.unit) ∧
      (ktimerSummary .invalid = ktimerSummary timerDueAtFive ↔
        (∀ f ∈ [(⟨"deadline".toList, "deadline_ms".toList, "ms".toList⟩ : Shown)],
          SBValue.invalid.unsignedMember f.member = timerDueAtFive.unsignedMember f.member) ∧
        kworkSummary (SBValue.invalid.getChildMemberWithName "work".toList) =
          kworkSummary (timerDueAtFive.getChildMemberWithName "work".toList)) :=
  ⟨by decide, requestSummary_eq_iff _ _ (by decide) _ _⟩

/-! ### The kernel -/

/-- What `lldb.SBError()` evaluates to in `lldb_formatters.py`: the module never imports
`lldb`, so looking the name up raises `NameError`, shown as its text. -/
def newSBError : Except (List Char) Unit := .error "name 'lldb' is not defined".toList

/-- The `while` loop of `count_list` (`lldb_formatters.py:148-166`) from `count` items
counted, the addresses `visited` and the address `current`, over how the process reads the
`next` pointer at an address; `fuel` bounds the iterations, which `count < 1000` ends. -/
def countLoop (readPointer : Nat → Option Nat) :
    (fuel count : Nat) → (visited : List Nat) → (current : Nat) → Except (List Char) Nat
  | 0, count, _, _ => .ok count
  | fuel + 1, count, visited, current =>
    if current ≠ 0 ∧ current ∉ visited ∧ count < 1000 then
      match newSBError with
      | .error e => .error e
      | .ok () =>
        match readPointer (current + 24) with
        | some next => countLoop readPointer fuel (count + 1) (current :: visited) next
        | none => .ok (count + 1)
    else .ok count

/-- `count_list(head_name)` (`lldb_formatters.py:138-168`). -/
def countList (readPointer : Nat → Option Nat) (v : SBValue) (headName : List Char) :
    Except (List Char) Nat :=
  let head := v.unsignedMember headName
  if head = 0 then .ok 0 else countLoop readPointer 1000 0 [] head

/-- The queue depths `kernel_summary` counts, in order, or the first exception. -/
def queueDepths (readPointer : Nat → Option Nat) (v : SBValue) :
    Except (List Char) (Nat × Nat × Nat) := do
  let submitDepth ← countList readPointer v "submit_queue_head".toList
  let readyDepth ← countList readPointer v "ready_queue_head".toList
  let cancelDepth ← countList readPointer v "cancel_queue_head".toList
  pure (submitDepth, readyDepth, cancelDepth)

/-- `kernel_summary` (`lldb_formatters.py:134-181`), over how the process reads pointers. -/
def kernelSummary (readPointer : Nat → Option Nat) (v : SBValue) : List Char :=
  match queueDepths readPointer v with
  | .ok (submitDepth, readyDepth, cancelDepth) =>
    let timerCount := v.unsignedMember "timer_heap_size".toList
    let currentTime := v.unsignedMember "current_time_ms".toList
    "kernel_t(time=".toList ++ Nat.toDigits 10 currentTime ++ "ms, submit=".toList ++
      Nat.toDigits 10 submitDepth ++ ", ready=".toList ++ Nat.toDigits 10 readyDepth ++
      ", cancel=".toList ++ Nat.toDigits 10 cancelDepth ++ ", timers=".toList ++
      Nat.toDigits 10 timerCount ++ ")".toList
  | .error e => "kernel_t(<error: ".toList ++ e ++ ">)".toList

/-- A non-empty queue raises the `NameError` at the first item. -/
theorem countList_eq (readPointer : Nat → Option Nat) (v : SBValue) (headName : List Char) :
    countList readPointer v headName =
      if v.unsignedMember headName = 0 then .ok 0
      else .error "name 'lldb' is not defined".toList := by
  by_cases h : v.unsignedMember headName = 0
  · simp only [countList, h, if_true]
  · simp only [countList, h, if_false]
    rw [show (1000 : Nat) = 999 + 1 from rfl, countLoop, if_pos ⟨h, List.not_mem_nil _, by decide⟩]
    rfl

/-- `kernel_summary` shows the queue depths only of a kernel whose three queues are empty,
all `0`; whenever a queue holds an item it shows the `NameError` of the missing
`import lldb` instead, whatever the process's memory holds. -/
theorem kernelSummary_eq (readPointer : Nat → Option Nat) (v : SBValue) :
    kernelSummary readPointer v =
      if v.unsignedMember "submit_queue_head".toList = 0 ∧
          v.unsignedMember "ready_queue_head".toList = 0 ∧
          v.unsignedMember "cancel_queue_head".toList = 0 then
        "kernel_t(time=".toList ++ Nat.toDigits 10 (v.unsignedMember "current_time_ms".toList) ++
          "ms, submit=0, ready=0, cancel=0, timers=".toList ++
          Nat.toDigits 10 (v.unsignedMember "timer_heap_size".toList) ++ ")".toList
      else "kernel_t(<error: name 'lldb' is not defined>)".toList := by
  simp only [kernelSummary, queueDepths, countList_eq]
  by_cases h₁ : v.unsignedMember "submit_queue_head".toList = 0 <;>
    by_cases h₂ : v.unsignedMember "ready_queue_head".toList = 0 <;>
    by_cases h₃ : v.unsignedMember "cancel_queue_head".toList = 0 <;>
    simp only [h₁, h₂, h₃, if_true, if_false, and_self, and_false, false_and, List.append_assoc] <;>
    rfl

/-! ### The platform -/

/-- The MAC address text of `platform_summary`: the six elements as two-digit hexadecimal,
joined by `:`. -/
def macText (mac : SBValue) : List Char :=
  List.intercalate [':']
    ((List.range 6).map fun i => hexPad 2 (mac.getChildAtIndex i).getValueAsUnsigned)

/-- `platform_summary` (`lldb_formatters.py:184-215`). -/
def platformSummary (v : SBValue) : List Char :=
  let hasRng := v.unsignedMember "virtio_rng_ptr".toList ≠ 0
  let hasBlk := v.unsignedMember "virtio_blk_ptr".toList ≠ 0
  let hasNet := v.unsignedMember "virtio_net_ptr".toList ≠ 0
  let macField := v.getChildMemberWithName "net_mac_address".toList
  let devices :=
    (if hasRng then ["RNG".toList] else []) ++
    (if hasBlk then
      ["BLK(".toList ++ Nat.toDigits 10 (v.unsignedMember "block_capacity".toList) ++ ['x'] ++
        Nat.toDigits 10 (v.unsignedMember "block_sector_size".toList) ++ "B)".toList]
    else []) ++
    (if hasNet then
      [if macField.isValid then "NET(".toList ++ macText macField ++ [')'] else "NET".toList]
    else [])
  let deviceStr :=
    if devices = [] then "no devices".toList else List.intercalate ", ".toList devices
  "platform_t(".toList ++ deviceStr ++ [')']

/-- The MAC address a platform summary shows reads back as the address: its text splits at
`:` into six groups, which `int(group, 16)` reads as the six elements of the field. -/
theorem macText_reads_back (mac : SBValue) :
    ((macText mac).splitOn ':').map intHex =
      (List.range 6).map fun i => some ((mac.getChildAtIndex i).getValueAsUnsigned : Int) := by
  have hcolon : ∀ l ∈ (List.range 6).map fun i =>
      hexPad 2 (mac.getChildAtIndex i).getValueAsUnsigned, ':' ∉ l := by
    intro l hl hc
    obtain ⟨i, -, rfl⟩ := List.mem_map.mp hl
    have := digitsOf_hexPad 2 _ ':' hc
    exact absurd this (by decide)
  rw [macText, List.splitOn_intercalate _ ':' hcolon (by simp), List.map_map]
  exact List.map_congr_left fun i _ => intHex_hexPad 2 _

end PicoScripts.Debug
