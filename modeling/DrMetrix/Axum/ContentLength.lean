import DrMetrix.Lib.FloatLiteral
import DrMetrix.Axum.Recording

/-! # Sizes from `Content-Length`

The grammar of the header is digits only, but the size is read by the float
parser. So the other float literals are observed as well, with a sign, a point,
an exponent, an infinity or NaN, and some of them stay in the sum for good.
-/

namespace DrMetrix.Axum

open Prometheus

def digitByte (b : UInt8) : Bool := 48 ≤ b && b ≤ 57

/-- The number which a run of ASCII digits denotes. -/
def decimalValue (bytes : List UInt8) : Nat :=
  bytes.foldl (fun n b => 10 * n + (b.toNat - 48)) 0

/-- What the header's grammar says: digits only, at least one, and a finite float. -/
def announcedSize (bytes : List UInt8) : Option ℚ :=
  if bytes ≠ [] ∧ bytes.all digitByte ∧ (decimalValue bytes : ℚ) < Exact.overflow then
    some (decimalValue bytes)
  else none

def Response.announced (response : Response) : Option Exact :=
  (response.contentLength.bind announcedSize).map .fin

/-- The response has a `Content-Length` which is a float literal but announces
    no size. -/
def Response.Misread (response : Response) : Prop :=
  ∃ bytes t, response.contentLength = some bytes ∧ headerText bytes = some t ∧
    FloatLiteral t ∧ announcedSize bytes = none

/-! ## One header value -/

theorem digitByte_range {b : UInt8} (digit : digitByte b = true) :
    48 ≤ b.toNat ∧ b.toNat ≤ 57 := by
  simpa [digitByte, UInt8.le_iff_toNat_le] using digit

theorem toNat_ofNat_digit {b : UInt8} (digit : digitByte b = true) :
    (Char.ofNat b.toNat).toNat = b.toNat := by
  obtain ⟨-, upper⟩ := digitByte_range digit
  have valid : b.toNat.isValidChar := .inl (by omega)
  rw [Char.ofNat, dif_pos valid]
  rfl

theorem headerText_digits {bytes : List UInt8} (digits : ∀ b ∈ bytes, digitByte b = true) :
    headerText bytes = some (bytes.map fun b => Char.ofNat b.toNat) := by
  unfold headerText
  apply if_pos
  apply List.all_eq_true.mpr
  intro b member
  obtain ⟨lower, upper⟩ := digitByte_range (digits b member)
  simp [UInt8.le_iff_toNat_le, UInt8.lt_iff_toNat_lt]
  omega

theorem digits_chars {bytes : List UInt8} (digits : ∀ b ∈ bytes, digitByte b = true) :
    FloatLiteral.Digits (bytes.map fun b => Char.ofNat b.toNat) := by
  intro c member
  obtain ⟨b, inside, rfl⟩ := List.mem_map.mp member
  have range := digitByte_range (digits b inside)
  rw [Char.isDigit_iff_toNat, toNat_ofNat_digit (digits b inside)]
  exact range

theorem ofDigitChars_bytes {bytes : List UInt8} (digits : ∀ b ∈ bytes, digitByte b = true) :
    Nat.ofDigitChars 10 (bytes.map fun b => Char.ofNat b.toNat) 0 = decimalValue bytes := by
  rw [Nat.ofDigitChars_eq_foldl, List.foldl_map, decimalValue]
  apply List.foldl_ext
  intro n b member
  simp [toNat_ofNat_digit (digits b member)]

/-- An announced size is observed as it is. -/
theorem parse_announced {bytes : List UInt8} {size : ℚ}
    (announced : announcedSize bytes = some size) :
    (headerText bytes).bind Exact.parse = some (.fin size) := by
  simp only [announcedSize, Option.ite_none_right_eq_some, Option.some.injEq] at announced
  obtain ⟨⟨nonempty, all, finite⟩, rfl⟩ := announced
  have digits : ∀ b ∈ bytes, digitByte b = true := List.all_eq_true.mp all
  have read := FloatLiteral.parse_digits_finite (digits_chars digits) (by simpa using nonempty)
    (by rwa [ofDigitChars_bytes digits])
  rw [headerText_digits digits, Option.bind_some, read, ofDigitChars_bytes digits]

/-- What the response announces is what the middleware observes, unless it
    misreads the header. -/
theorem contentSize_announced_iff (response : Response) :
    (contentSize (.ok response) : Option Exact) = response.announced ↔ ¬ response.Misread := by
  obtain ⟨status, header⟩ := response
  cases header with
  | none => simp [contentSize, Response.announced, Response.Misread]
  | some bytes =>
      have observed : (contentSize (.ok ⟨status, some bytes⟩) : Option Exact) =
          (headerText bytes).bind Exact.parse := rfl
      rw [observed]
      cases announced : announcedSize bytes with
      | some size =>
          simp [parse_announced announced, Response.announced, Response.Misread, announced]
      | none =>
          cases text : headerText bytes with
          | none => simp [Response.announced, Response.Misread, announced, text]
          | some t =>
              simp [Response.announced, Response.Misread, announced, text,
                ← FloatLiteral.parse_isSome]

/-! ## The sums of a run -/

/-- The response which an inner service returned. -/
def Action.returned? : Action → Option Response
  | .poll _ _ (.ready (.ok response)) => some response
  | _ => none

/-- The responses of a run, in order. -/
def returned (as : List Action) : List Response := as.filterMap Action.returned?

/-- The future completed with a response which announces a size. -/
def FutureState.announces : FutureState Exact → Bool
  | .completed (.ok response) => response.announced.isSome
  | _ => false

/-- The size which the response of a completed future announces. -/
def FutureState.sizeAnnounced : FutureState Exact → Option ℚ
  | .completed (.ok response) => response.contentLength.bind announcedSize
  | _ => none

namespace System

def sizeSum {F : Type} [Binary64 F] (s : System F) (k : LabelValues) : F :=
  s.metrics.responseSizeBytes.sampleSum k

/-- The sizes which the completed responses of one method and path announce. -/
def announcedSizes (s : System Exact) (k : LabelValues) : List ℚ :=
  s.futures.filterMap fun f => if f.sizeLabels = k then f.state.sizeAnnounced else none

end System

theorem announcedSize_nonneg {bytes : List UInt8} {size : ℚ}
    (announced : announcedSize bytes = some size) : 0 ≤ size := by
  simp only [announcedSize, Option.ite_none_right_eq_some, Option.some.injEq] at announced
  obtain ⟨-, rfl⟩ := announced
  exact Rat.natCast_nonneg

/-- What is observed of an announced size is finite and not negative. -/
theorem finiteLe_contentSize {result : CallResult} {len : Exact}
    (honest : ∀ response, result = .ok response → ¬ response.Misread)
    (observed : contentSize result = some len) : Exact.FiniteLe (.fin 0) len := by
  cases result with
  | error e => simp [contentSize] at observed
  | ok response =>
      rw [(contentSize_announced_iff response).mpr (honest response rfl)] at observed
      simp only [Response.announced, Option.map_eq_some_iff, Option.bind_eq_some_iff] at observed
      obtain ⟨size, ⟨bytes, -, announced⟩, rfl⟩ := observed
      exact announcedSize_nonneg announced

theorem returned_append (as bs : List Action) :
    returned (as ++ bs) = returned as ++ returned bs :=
  List.filterMap_append

theorem FutureState.passedSize_announces {state : FutureState Exact}
    (observed : ∀ response, state.result? = some (.ok response) →
      (contentSize (.ok response) : Option Exact) = response.announced) :
    state.passedSize = state.announces := by
  cases state with
  | completed result =>
      cases result with
      | ok response => simp only [passedSize, announces, observed response rfl]
      | error e => rfl
  | _ => rfl

/-- Where every size is observed as announced, the recorded sizes are the announced ones. -/
theorem System.under_sizeEntries {s : System Exact}
    (observed : ∀ f ∈ s.futures, ∀ response, f.state.result? = some (.ok response) →
      (contentSize (.ok response) : Option Exact) = response.announced) (k : LabelValues) :
    Log.under (sizeEntries s.futures) k = (s.announcedSizes k).map .fin := by
  rw [Log.under, sizeEntries, List.filter_filterMap, List.map_filterMap, announcedSizes,
    List.map_filterMap]
  apply List.filterMap_congr
  intro f member
  have asAnnounced := observed f member
  cases state : f.state with
  | completed result =>
      cases result with
      | error e => simp [CallFuture.sizeEntry, state, contentSize, FutureState.sizeAnnounced]
      | ok response =>
          rw [state] at asAnnounced
          simp only [CallFuture.sizeEntry, state, asAnnounced response rfl, Response.announced,
            FutureState.sizeAnnounced]
          by_cases here : f.sizeLabels = k <;>
            cases response.contentLength.bind announcedSize <;> simp [here]
  | _ => simp [CallFuture.sizeEntry, state, FutureState.sizeAnnounced]

section
variable [LabelKey]

/-- From a visited state to any later one no sum leaves the finite numbers or
    goes down. -/
def SumsSound (m : HttpMetrics Exact) (as : List Action) : Prop :=
  ∀ pre post t u, pre ++ post <+: as → Transition.run System.step (System.start m) pre = some t →
    Transition.run System.step t post = some u → ∀ k, Exact.FiniteLe (t.sizeSum k) (u.sizeSum k)

/-- A step leaves the sums alone, or adds the size of a response to one of them. -/
theorem System.step_sizeSum (each : LabelKey.OneChildEach) {F : Type} [Binary64 F] {s s' : System F}
    {a : Action} (h : s.step a = some s') :
    (∀ k, s'.sizeSum k = s.sizeSum k) ∨
      ∃ (i : Nat) (f : CallFuture F) (result : CallResult) (len : F), s.futures[i]? = some f ∧
        f.state.result? = some result ∧ contentSize result = some len ∧
        ∀ k, s'.sizeSum k =
          if f.sizeLabels = k then Binary64.add (s.sizeSum k) len else s.sizeSum k := by
  rcases System.step_sizes h with ⟨same, -⟩ | ⟨i, f, result, len, found, known, size, observed, -⟩
  · exact .inl fun k => by rw [sizeSum, same, sizeSum]
  · refine .inr ⟨i, f, result, len, found, known, size, ?_⟩
    intro k
    rw [sizeSum, observed]
    exact HistogramVec.sampleSum_observe (each.alone k) _ _ len

theorem System.step_summed (each : LabelKey.OneChildEach) {s s' : System Exact} {a : Action}
    {k : LabelValues} (summed : s.sizeSum k = (Log.under (sizeEntries s.futures) k).sum)
    (h : s.step a = some s') : s'.sizeSum k = (Log.under (sizeEntries s'.futures) k).sum := by
  rcases System.step_sizes h with ⟨same, entries⟩ | ⟨i, f, result, len, -, -, -, observed, entries⟩
  · rw [(Log.under_perm entries k).sum_eq, ← summed, sizeSum, same, sizeSum]
  · rw [(Log.under_perm entries k).sum_eq, Log.under_concat, List.sum_append, ← summed, sizeSum,
      observed, HistogramVec.sampleSum_observe (each.alone k)]
    by_cases here : f.sizeLabels = k
    · rw [if_pos here, if_pos here, List.sum_singleton]
      rfl
    · rw [if_neg here, if_neg here, List.sum_nil, add_zero]
      rfl

/-- The sums are those of the recorded sizes. -/
theorem System.run_summed (each : LabelKey.OneChildEach) {m : HttpMetrics Exact}
    {as : List Action} {s : System Exact} (fresh : m.Fresh)
    (h : Transition.run System.step (System.start m) as = some s) (k : LabelValues) :
    s.sizeSum k = (Log.under (sizeEntries s.futures) k).sum := by
  apply Transition.run_invariant (fun _ _ _ summed taken => System.step_summed each summed taken) _ h
  obtain ⟨-, -, -, sizes⟩ := fresh
  simp [System.sizeSum, System.start, HistogramVec.sampleSum, sizes, Family.read,
    HistogramVec.fresh, sizeEntries, Log.under, Exact.binary64_zero]

theorem System.step_sumsSound (each : LabelKey.OneChildEach) {as : List Action}
    {s s' : System Exact} {a : Action}
    (history : History as s) (honest : ∀ response ∈ returned as, ¬ response.Misread)
    (finite : ∀ k, Exact.FiniteLe (s.sizeSum k) (s.sizeSum k)) (h : s.step a = some s')
    (k : LabelValues) : Exact.FiniteLe (s.sizeSum k) (s'.sizeSum k) := by
  rcases System.step_sizeSum each h with same | ⟨i, f, result, len, found, known, observed, added⟩
  · rw [same]
    exact finite k
  · obtain ⟨now, given⟩ := history.answered i f result found known
    have size : Exact.FiniteLe (.fin 0) len := by
      apply finiteLe_contentSize _ observed
      rintro response rfl
      exact honest response (List.mem_filterMap.mpr ⟨_, given, rfl⟩)
    rw [added]
    by_cases here : f.sizeLabels = k
    · simp only [here, if_true]
      exact Exact.finiteLe_add.mpr ⟨finite k, size⟩
    · simp only [here, if_false]
      exact finite k

/-- Honest headers keep the sums sound from one state of a run to a later one. -/
theorem System.run_sumsSound (each : LabelKey.OneChildEach) {m : HttpMetrics Exact}
    {pre post : List Action} {t u : System Exact}
    (honest : ∀ response ∈ returned (pre ++ post), ¬ response.Misread)
    (before : Transition.run System.step (System.start m) pre = some t)
    (after : Transition.run System.step t post = some u)
    (finite : ∀ k, Exact.FiniteLe (t.sizeSum k) (t.sizeSum k)) :
    ∀ k, Exact.FiniteLe (t.sizeSum k) (u.sizeSum k) := by
  induction post using List.reverseRecOn generalizing u with
  | nil =>
      cases after
      exact finite
  | append_singleton post a ih =>
      obtain ⟨v, earlier, last⟩ := Transition.run_append_some.mp after
      obtain ⟨w, taken, done⟩ := Transition.run_cons_some.mp last
      cases done
      have shorter : ∀ response ∈ returned (pre ++ post), ¬ response.Misread := by
        intro response member
        apply honest response
        rw [← List.append_assoc, returned_append]
        exact List.mem_append_left _ member
      have sound := ih shorter earlier
      have history : History (pre ++ post) v :=
        History.run (Transition.run_append_some.mpr ⟨t, before, earlier⟩)
      intro k
      apply (sound k).trans
      exact System.step_sumsSound each history shorter (fun k => (sound k).refl_right) taken k

theorem SumsSound.of_honest (each : LabelKey.OneChildEach) {m : HttpMetrics Exact}
    {as : List Action} (fresh : m.Fresh)
    (honest : ∀ response ∈ returned as, ¬ response.Misread) : SumsSound m as := by
  intro pre post t u inside before after
  have here : ∀ response ∈ returned (pre ++ post), ¬ response.Misread := by
    intro response member
    exact honest response ((inside.sublist.filterMap _).subset member)
  have zero : ∀ k, Exact.FiniteLe ((System.start m).sizeSum k) ((System.start m).sizeSum k) := by
    intro k
    obtain ⟨-, -, -, sizes⟩ := fresh
    simp [System.sizeSum, System.start, HistogramVec.sampleSum, sizes, Family.read,
      HistogramVec.fresh, Binary64.zero, Exact.FiniteLe]
  have earlier : ∀ response ∈ returned ([] ++ pre), ¬ response.Misread := by
    intro response member
    apply here response
    rw [returned_append]
    exact List.mem_append_left _ member
  have finite := System.run_sumsSound each earlier rfl before zero
  exact System.run_sumsSound each here before after fun k => (finite k).refl_right

/-- What the sizes of a run should be. -/
structure SizesSound (m : HttpMetrics Exact) (as : List Action) : Prop where
  /-- A response is observed with the size which it announces, or not at all. -/
  observed : ∀ response ∈ returned as,
    (contentSize (.ok response) : Option Exact) = response.announced
  /-- Every visited state has counted the announced sizes, and no others. -/
  counted : ∀ pre t, pre <+: as → Transition.run System.step (System.start m) pre = some t →
    ∀ k, t.metrics.responseSizeBytes.sampleCount k =
      t.futures.countP fun f => f.state.announces && f.sizeLabels == k
  /-- It has summed up exactly these sizes. -/
  recorded : ∀ pre t, pre <+: as → Transition.run System.step (System.start m) pre = some t →
    ∀ k, t.sizeSum k = .fin (t.announcedSizes k).sum
  sums : SumsSound m as

/-- The sizes of a run are what they should be exactly if it misreads no header. -/
theorem sizes_sound_iff (each : LabelKey.OneChildEach) {ns : String} {m : HttpMetrics Exact}
    (built : HttpMetrics.new ns = .ok m) (as : List Action) :
    SizesSound m as ↔ ∀ response ∈ returned as, ¬ response.Misread := by
  constructor
  · intro sound response member
    exact (contentSize_announced_iff response).mp (sound.observed response member)
  · intro honest
    have fresh := HttpMetrics.new_fresh built
    have observed : ∀ response ∈ returned as,
        (contentSize (.ok response) : Option Exact) = response.announced := by
      intro response member
      exact (contentSize_announced_iff response).mpr (honest response member)
    have answered : ∀ pre t, pre <+: as → Transition.run System.step (System.start m) pre = some t →
        ∀ f ∈ t.futures, ∀ response, f.state.result? = some (.ok response) →
          (contentSize (.ok response) : Option Exact) = response.announced := by
      intro pre t inside ran f member response known
      obtain ⟨i, found⟩ := List.mem_iff_getElem?.mp member
      obtain ⟨now, given⟩ := (History.run ran).answered i f _ found known
      exact observed response (List.mem_filterMap.mpr ⟨_, inside.subset given, rfl⟩)
    refine ⟨observed, ?counted, ?recorded, SumsSound.of_honest each fresh honest⟩
    case counted =>
      intro pre t inside ran k
      rw [(Accounts.run fresh ran).size k (each.alone k)]
      apply List.countP_congr
      intro f member
      rw [FutureState.passedSize_announces (answered pre t inside ran f member)]
    case recorded =>
      intro pre t inside ran k
      rw [System.run_summed each fresh ran,
        System.under_sizeEntries (answered pre t inside ran), Exact.sum_fin]

end

section
attribute [local instance] LabelKey.tuples

/-- Two responses on one route. The second has the `Content-Length` 42. -/
def sizedResponses (first : List UInt8) : List Action :=
  [.layer, .call 0 ⟨"GET", some "/file", "/file"⟩ 0, .call 0 ⟨"GET", some "/file", "/file"⟩ 0,
    .poll 0 0 (.ready (.ok ⟨⟨200, by decide, by decide⟩, some first⟩)), .update 0, .update 0,
    .update 0, .update 0,
    .poll 1 0 (.ready (.ok ⟨⟨200, by decide, by decide⟩, some [52, 50]⟩)), .update 1, .update 1,
    .update 1, .update 1]

/-- The bytes of `nan`. -/
def nanBytes : List UInt8 := [110, 97, 110]

/-- `7` and then `42`. -/
theorem sizes_sound_small :
    ∃ m : HttpMetrics Exact, HttpMetrics.new "app" = .ok m ∧ SizesSound m (sizedResponses [55]) := by
  obtain ⟨m, built⟩ : ∃ m : HttpMetrics Exact, HttpMetrics.new "app" = .ok m := ⟨_, rfl⟩
  refine ⟨m, built, (sizes_sound_iff LabelKey.tuples_each built _).mpr ?_⟩
  intro response member
  simp [returned, sizedResponses, Action.returned?] at member
  rcases member with rfl | rfl <;> rintro ⟨bytes, t, header, -, -, unannounced⟩ <;> cases header
  · have announced : announcedSize [55] = some 7 := by decide +kernel
    rw [announced] at unannounced
    cases unannounced
  · have announced : announcedSize [52, 50] = some 42 := by decide +kernel
    rw [announced] at unannounced
    cases unannounced

/-- One NaN, and the sum stays NaN. -/
theorem sizes_sound_fails :
    ∃ (m : HttpMetrics Exact) (s : System Exact), HttpMetrics.new "app" = .ok m ∧
      Transition.run System.step (System.start m) (sizedResponses nanBytes) = some s ∧
      s.sizeSum ["GET", "/file"] = .nan ∧ ¬ SizesSound m (sizedResponses nanBytes) := by
  have traced : ((HttpMetrics.new "app").toOption.bind fun m : HttpMetrics Exact =>
      (Transition.run System.step (System.start m) (sizedResponses nanBytes)).map fun s =>
        s.sizeSum ["GET", "/file"]) = some .nan := by
    decide +kernel
  cases built : (HttpMetrics.new "app" : Except MetricsError (HttpMetrics Exact)) with
  | error e => simp [built, Except.toOption] at traced
  | ok m =>
      simp only [built, Except.toOption, Option.bind_some] at traced
      obtain ⟨s, ran, poisoned⟩ := Option.map_eq_some_iff.mp traced
      refine ⟨m, s, rfl, ran, poisoned, ?_⟩
      intro sound
      have finite := sound.sums (sizedResponses nanBytes) [] s s (by simp) ran rfl ["GET", "/file"]
      rw [poisoned] at finite
      exact finite

end

end DrMetrix.Axum
