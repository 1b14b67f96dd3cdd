import LnProxy.Lib.Segments

set_option autoImplicit false

/-! # Reading lines through a buffer

A buffered reader over a source that arrives in pieces. It reads from the source only when its buffer
holds no whole line, and then as much as the source gives and the buffer has room for. A line longer
than the buffer is put together from several buffers; a full buffer may keep its last value, and
values that are skipped at the beginning of a line do not wait in the buffer for the rest of it.

What the reader returns depends only on the data; what it leaves in its buffer, and hence takes away
from other readers of the source, depends on the pieces. How much a read can bring is told by the data
seen so far, and with it whether some read ends just where a text ends (`Arrives`). -/

namespace LineReader

variable {α : Type} [DecidableEq α] {delim : α}

/-- Split a list after the first delimiter. -/
def cut (delim : α) : List α → Option (List α × List α)
  | [] => none
  | a :: as =>
    if a = delim then some ([a], as)
    else (cut delim as).map fun (line, rest) => (a :: line, rest)

theorem cut_line {line rest : List α} (h : delim ∉ line) :
    cut delim (line ++ delim :: rest) = some (line ++ [delim], rest) := by
  induction line with
  | nil => simp [cut]
  | cons a line ih =>
    simp only [List.mem_cons, not_or] at h
    simp [cut, Ne.symm h.1, ih h.2]

theorem cut_none {as : List α} (h : delim ∉ as) : cut delim as = none := by
  induction as with
  | nil => rfl
  | cons a as ih =>
    simp only [List.mem_cons, not_or] at h
    simp [cut, Ne.symm h.1, ih h.2]

/-- Two ways to read the same data up to the first delimiter agree. -/
theorem line_unique {pre line as tail : List α} (hpre : delim ∉ pre) (hline : delim ∉ line)
    (h : pre ++ delim :: as = line ++ delim :: tail) : pre = line ∧ as = tail := by
  have hcut := congrArg (cut delim) h
  rw [cut_line hpre, cut_line hline, Option.some.injEq, Prod.mk.injEq] at hcut
  exact ⟨List.append_cancel_right hcut.1, hcut.2⟩

/-- How a reader treats its buffer. -/
structure Rules (α : Type) where
  size : Nat
  delim : α
  /-- Stays in a full buffer, if it is the last value. -/
  back : α
  /-- Does not stay in the buffer at the beginning of a line. -/
  skip : α → Bool
  two_le : 2 ≤ size

end LineReader

/-- A reader: its buffer, the source behind it, and what its reads from the source brought. -/
structure LineReader (α : Type) where
  buf : List α
  src : List (List α)
  seen : List α
  deriving DecidableEq

namespace LineReader

variable {α : Type} [DecidableEq α] {c : Rules α} {r r' : LineReader α}
  {text d sofar stay line tail : List α}

def start (src : List (List α)) : LineReader α := ⟨[], src, []⟩

/-- What the reader has not returned yet. -/
def rest (r : LineReader α) : List α := r.buf ++ r.src.flatten

/-- One read from the source; `none` at its end. -/
def fill (size : Nat) (r : LineReader α) : Option (LineReader α) :=
  match r.src with
  | [] => none
  | seg :: src =>
    let chunk := Segments.read (size - r.buf.length) (seg :: src)
    some ⟨r.buf ++ chunk.1, chunk.2, r.seen ++ chunk.1⟩

/-- What leaves a buffer before the next read, and what stays. -/
def leave (c : Rules α) (buf : List α) : List α × List α :=
  if buf.length < c.size then ([], buf)
  else if buf.getLast? = some c.back then (buf.dropLast, [c.back])
  else (buf, [])

/-- The same for a buffer without a delimiter at any place of a line; `sofar` is the part of the line
    that has left it before. -/
def settle (c : Rules α) (sofar buf : List α) : List α × List α :=
  if sofar.all c.skip then
    let parts := leave c (buf.dropWhile c.skip)
    (buf.takeWhile c.skip ++ parts.1, parts.2)
  else leave c buf

/-- Read a line with its delimiter. -/
def readLine (c : Rules α) : Nat → List α → LineReader α → Option (List α × LineReader α)
  | 0, _, _ => none
  | fuel + 1, sofar, r =>
    match cut c.delim r.buf with
    | some (line, rest) => some (sofar ++ line, { r with buf := rest })
    | none =>
      let parts := settle c sofar r.buf
      (fill c.size { r with buf := parts.2 }).bind (readLine c fuel (sofar ++ parts.1))

/-- Read lines up to one that `last` accepts; the lines before it, and the reader after it. -/
def readLines (c : Rules α) (last : List α → Bool) (fuel : Nat) :
    Nat → LineReader α → Option (List (List α) × LineReader α)
  | 0, _ => none
  | n + 1, r =>
    (readLine c fuel [] r).bind fun (line, r) =>
      if last line then some ([], r)
      else (readLines c last fuel n r).map fun (lines, r) => (line :: lines, r)

/-! ## The reads, from the data alone -/

/-- How many values wait in the buffer, one value later; `none` at the beginning of a line. -/
def hold (c : Rules α) (held : Option Nat) (a : α) : Option Nat :=
  if a = c.delim then none
  else if held = none ∧ c.skip a = true then none
  else if held.getD 0 + 1 < c.size then some (held.getD 0 + 1)
  else some (if a = c.back then 1 else 0)

/-- How many values the next read can bring, where it takes a read to go on. -/
def room (c : Rules α) (seen : List α) : Nat := c.size - (seen.foldl (hold c) none).getD 0

/-- Some read ends just with the text, when each read brings the next piece, or as much of it as
    there is room for. -/
inductive Arrives (c : Rules α) (text : List α) : List α → List (List α) → Prop
  | whole (src : List (List α)) : Arrives c text text src
  | read {seen seg : List α} {src : List (List α)}
      (h : Arrives c text (seen ++ (Segments.read (room c seen) (seg :: src)).1)
        (Segments.read (room c seen) (seg :: src)).2) : Arrives c text seen (seg :: src)

theorem Arrives.length_le {seen : List α} {src : List (List α)} (h : Arrives c text seen src) :
    seen.length ≤ text.length := by
  induction h with
  | whole => exact Nat.le_refl _
  | read _ ih =>
    rw [List.length_append] at ih
    omega

/-- Values of one line that find room are all held. -/
theorem foldl_hold {as : List α} {n : Nat} (hdelim : c.delim ∉ as) (hlt : n + as.length < c.size) :
    as.foldl (hold c) (some n) = some (n + as.length) := by
  induction as generalizing n with
  | nil => rfl
  | cons a as ih =>
    simp only [List.mem_cons, not_or, List.length_cons] at hdelim hlt
    have hstep : hold c (some n) a = some (n + 1) := by
      have hroom : n + 1 < c.size := by omega
      simp [hold, Ne.symm hdelim.1, hroom]
    rw [List.foldl_cons, hstep, ih hdelim.2 (by omega), List.length_cons]
    congr 1
    omega

/-- Values of one line from a place where none is skipped any more: they are held, or fill the
    buffer. -/
theorem foldl_hold_body {held : Option Nat} {as : List α} {a : α}
    (hhead : held = none → ∀ b ∈ (as ++ [a]).head?, c.skip b = false)
    (hdelim : c.delim ∉ as ++ [a]) (hle : held.getD 0 + (as.length + 1) ≤ c.size) :
    (as ++ [a]).foldl (hold c) held =
      some (if held.getD 0 + (as.length + 1) < c.size then held.getD 0 + (as.length + 1)
        else if a = c.back then 1 else 0) := by
  -- the first value makes a number of what is held
  obtain ⟨n, hn, heq⟩ : ∃ n, held.getD 0 = n ∧
      (as ++ [a]).foldl (hold c) held = (as ++ [a]).foldl (hold c) (some n) := by
    refine ⟨_, rfl, ?_⟩
    cases held with
    | some n => rfl
    | none =>
      cases hlist : as ++ [a] with
      | nil => simp at hlist
      | cons b bs =>
        have hb := hhead rfl b (by simp [hlist])
        simp [hold, hb]
  rw [hn] at hle
  rw [heq, hn]
  simp only [List.mem_append, List.mem_singleton, not_or] at hdelim
  rw [List.foldl_append, foldl_hold hdelim.1 (by omega)]
  simp only [List.foldl_cons, List.foldl_nil, hold, if_neg (Ne.symm hdelim.2), reduceCtorEq,
    false_and, if_false, Option.getD_some, Nat.add_assoc]
  split <;> rfl

/-! ## The buffer of a reader -/

theorem leave_append (c : Rules α) (buf : List α) : (leave c buf).1 ++ (leave c buf).2 = buf := by
  unfold leave
  split
  · rfl
  · split
    · next hlast =>
      obtain ⟨init, rfl⟩ := List.getLast?_eq_some_iff.1 hlast
      simp
    · exact List.append_nil buf

theorem settle_append (c : Rules α) (sofar buf : List α) :
    (settle c sofar buf).1 ++ (settle c sofar buf).2 = buf := by
  unfold settle
  split
  · rw [List.append_assoc, leave_append, List.takeWhile_append_dropWhile]
  · exact leave_append c buf

/-- A line of skipped values goes on with one that is not skipped, if it goes on. -/
def Past (c : Rules α) (sofar body : List α) : Prop :=
  sofar.all c.skip = true → ∀ a ∈ body.head?, c.skip a = false

omit [DecidableEq α] in
theorem Past.all {body : List α} (h : Past c sofar body) (hne : body ≠ []) :
    (sofar ++ body).all c.skip = false := by
  obtain ⟨a, body, rfl⟩ := List.exists_cons_of_ne_nil hne
  by_contra hall
  simp only [List.all_append, List.all_cons, Bool.not_eq_false, Bool.and_eq_true] at hall
  rw [h hall.1 a rfl] at hall
  cases hall.2.1

/-- The values `stay`, behind the values `sofar` of the same line, are those that wait in the
    buffer. -/
structure Held (c : Rules α) (sofar stay : List α) : Prop where
  count : (sofar ++ stay).foldl (hold c) none =
    if (sofar ++ stay).all c.skip then none else some stay.length
  past : Past c sofar stay
  lt : stay.length < c.size

theorem held_nil (c : Rules α) (h : sofar.foldl (hold c) none = none)
    (hskip : sofar.all c.skip = true) : Held c sofar [] := by
  refine ⟨?_, fun _ => by simp, Nat.lt_of_lt_of_le Nat.zero_lt_two c.two_le⟩
  rw [List.append_nil, h, if_pos hskip]

theorem Held.getD (h : Held c sofar stay) :
    ((sofar ++ stay).foldl (hold c) none).getD 0 = stay.length := by
  rw [h.count]
  split
  · next hall =>
    by_contra hne
    have hne : stay ≠ [] := by
      rintro rfl
      exact hne rfl
    rw [h.past.all hne] at hall
    cases hall
  · rfl

/-- The values of a line behind those that are skipped: they are counted until the buffer is full. -/
theorem Held.foldl_append {as : List α} {a : α} (h : Held c sofar stay)
    (hpast : Past c sofar (stay ++ (as ++ [a]))) (hdelim : c.delim ∉ as ++ [a])
    (hle : (stay ++ (as ++ [a])).length ≤ c.size) :
    (sofar ++ (stay ++ (as ++ [a]))).foldl (hold c) none =
      some (if (stay ++ (as ++ [a])).length < c.size then (stay ++ (as ++ [a])).length
        else if a = c.back then 1 else 0) := by
  simp only [List.length_append, List.length_singleton] at hle ⊢
  rw [← List.append_assoc, List.foldl_append, foldl_hold_body ?_ hdelim (by rw [h.getD]; exact hle),
    h.getD]
  intro hnone
  rw [h.count] at hnone
  split at hnone
  · next hall =>
    have hnil : stay = [] := by
      by_contra hne
      rw [h.past.all hne] at hall
      cases hall
    subst hnil
    rw [List.append_nil] at hall
    exact hpast hall
  · cases hnone

theorem Held.leave (h : Held c sofar stay) (chunk : List α) (hpast : Past c sofar (stay ++ chunk))
    (hdelim : c.delim ∉ chunk) (hle : (stay ++ chunk).length ≤ c.size) :
    Held c (sofar ++ (LineReader.leave c (stay ++ chunk)).1)
      (LineReader.leave c (stay ++ chunk)).2 := by
  rcases List.eq_nil_or_concat' chunk with rfl | ⟨as, a, rfl⟩
  · rw [List.append_nil, LineReader.leave, if_pos h.lt, List.append_nil]
    exact h
  · have hcount := h.foldl_append hpast hdelim hle
    have hall := hpast.all (by simp)
    have htwo := c.two_le
    unfold LineReader.leave
    split
    · next hlt =>
      rw [if_pos hlt] at hcount
      rw [List.append_nil]
      exact ⟨by rw [hcount, hall]; rfl, hpast, hlt⟩
    · next hfull =>
      have hlast : (stay ++ (as ++ [a])).getLast? = some a := by simp
      rw [if_neg hfull] at hcount
      simp only [hlast, Option.some.injEq]
      split
      · next hback =>
        have hdrop : (stay ++ (as ++ [a])).dropLast = stay ++ as := by
          rw [← List.append_assoc, List.dropLast_concat]
        rw [if_pos hback, ← List.append_assoc stay, ← List.append_assoc sofar] at hcount
        rw [← List.append_assoc stay, ← List.append_assoc sofar] at hall
        rw [hdrop, ← hback]
        refine ⟨by rw [hcount, hall]; rfl, fun hskip => ?_, Nat.lt_of_lt_of_le Nat.one_lt_two htwo⟩
        -- the value that is not skipped has left the buffer
        have hne : stay ++ as ≠ [] := by
          intro hnil
          rw [← List.append_assoc, hnil] at hfull
          simp only [List.nil_append, List.length_singleton] at hfull
          omega
        have hpast' : Past c sofar (stay ++ as) := by
          intro hskip b hb
          refine hpast hskip b ?_
          rw [← List.append_assoc, List.head?_append, hb]
          rfl
        rw [hpast'.all hne] at hskip
        cases hskip
      · next hback =>
        rw [if_neg hback] at hcount
        refine ⟨?_, fun _ => by simp, Nat.lt_of_lt_of_le Nat.zero_lt_two htwo⟩
        rw [List.append_nil, hcount, hall]
        rfl

theorem foldl_hold_skip {as : List α} (hskip : as.all c.skip = true) (hdelim : c.delim ∉ as) :
    as.foldl (hold c) none = none := by
  induction as with
  | nil => rfl
  | cons a as ih =>
    simp only [List.all_cons, Bool.and_eq_true, List.mem_cons, not_or] at hskip hdelim
    have hstep : hold c none a = none := by simp [hold, hskip.1]
    rw [List.foldl_cons, hstep, ih hskip.2 hdelim.2]

/-- **What stays in the buffer before a read is what the data tell.** -/
theorem Held.settle {chunk : List α} (h : Held c sofar stay) (hsofar : c.delim ∉ sofar)
    (hdelim : c.delim ∉ stay ++ chunk) (hle : (stay ++ chunk).length ≤ c.size) :
    Held c (sofar ++ (LineReader.settle c sofar (stay ++ chunk)).1)
      (LineReader.settle c sofar (stay ++ chunk)).2 := by
  have hchunk : c.delim ∉ chunk := fun hmem => hdelim (List.mem_append_right _ hmem)
  unfold LineReader.settle
  split
  · next hskip =>
    cases stay with
    | nil =>
      have hsplit := @List.takeWhile_append_dropWhile _ c.skip chunk
      have hlead : c.delim ∉ sofar ++ chunk.takeWhile c.skip := by
        rw [List.mem_append, not_or]
        refine ⟨hsofar, fun hmem => hchunk ?_⟩
        rw [← hsplit]
        exact List.mem_append_left _ hmem
      have hall : (sofar ++ chunk.takeWhile c.skip).all c.skip = true := by
        rw [List.all_append, hskip, List.all_takeWhile]
        rfl
      have hheld := held_nil c (foldl_hold_skip hall hlead) hall
      have hbody : ∀ a ∈ (chunk.dropWhile c.skip).head?, c.skip a = false := by
        intro a ha
        have := List.head?_dropWhile_not c.skip chunk
        rw [ha] at this
        simpa using this
      have hleave := hheld.leave (chunk.dropWhile c.skip) (fun _ => hbody)
        (fun hmem => hchunk (List.dropWhile_sublist _ |>.subset hmem))
        (Nat.le_trans (List.dropWhile_sublist _).length_le hle)
      simpa only [List.nil_append, List.append_assoc] using hleave
    | cons a stay =>
      have ha : c.skip a = false := h.past hskip a rfl
      have hleave := h.leave chunk (fun _ b hb => by cases hb; exact ha) hchunk hle
      simpa [ha] using hleave
  · next hskip => exact h.leave chunk (fun hall => absurd hall hskip) hchunk hle

/-! ## What a reader returns -/

/-- How many more reads the reader can make. -/
def weight (r : LineReader α) : Nat := r.src.flatten.length + r.src.length

/-- A reader within a line, on the way through `text` with `d` behind it. -/
structure Reading (c : Rules α) (text d sofar stay : List α) (r : LineReader α) : Prop where
  held : Held c sofar stay
  oneLine : c.delim ∉ sofar
  buf : stay <+: r.buf
  le : r.buf.length ≤ c.size
  count : r.seen.foldl (hold c) none = (sofar ++ r.buf).foldl (hold c) none
  seen : r.seen ++ r.src.flatten = text ++ d

theorem reading_start {src : List (List α)} (h : src.flatten = text ++ d) :
    Reading c text d [] [] (start src) :=
  ⟨held_nil c rfl rfl, by simp, List.nil_prefix, Nat.zero_le _, rfl, h⟩

/-- A read that is needed to come to the end of the text. -/
theorem Reading.fill {seg : List α} {src : List (List α)} (h : Reading c text d sofar r.buf r)
    (hsrc : r.src = seg :: src) (hlt : d.length < r.src.flatten.length) :
    ∃ r', LineReader.fill c.size r = some r' ∧ r'.rest = r.rest ∧ r'.weight < r.weight ∧
      Reading c text d sofar r.buf r' ∧
      (Arrives c text r.seen r.src ↔ Arrives c text r'.seen r'.src) := by
  have hroom : room c r.seen = c.size - r.buf.length := by rw [room, h.count, h.held.getD]
  have hpos : 0 < c.size - r.buf.length := Nat.sub_pos_of_lt h.held.lt
  have hread := Segments.read_append (c.size - r.buf.length) (seg :: src)
  have hle : (Segments.read (c.size - r.buf.length) (seg :: src)).1.length ≤
      c.size - r.buf.length := List.length_take_le ..
  have hseen : r.seen.length < text.length := by
    have hlen := congrArg List.length h.seen
    simp only [List.length_append] at hlen
    omega
  refine ⟨_, by rw [LineReader.fill, hsrc], ?_, ?_, ?_, ?_⟩
  · simp only [rest, hsrc, List.append_assoc, hread]
  · -- a piece gets shorter or goes away
    have hlen := congrArg List.length hread
    simp only [weight, hsrc, Segments.read, List.length_append, Segments.push_flatten,
      List.flatten_cons, List.length_take, List.length_drop, List.length_cons] at hlen ⊢
    cases seg with
    | nil => simp [Segments.push]
    | cons a as =>
      have hpush : (Segments.push (List.drop (c.size - r.buf.length) (a :: as)) src).length ≤
          src.length + 1 := by
        unfold Segments.push
        split <;> simp
      simp only [List.length_cons] at hlen ⊢
      omega
  · refine ⟨h.held, h.oneLine, List.prefix_append _ _, ?_, ?_, ?_⟩
    · simp only [List.length_append]
      omega
    · rw [← List.append_assoc, List.foldl_append, h.count, ← List.foldl_append]
    · rw [List.append_assoc, hread, ← hsrc, h.seen]
  · rw [hsrc, ← hroom]
    refine ⟨fun harrives => ?_, .read⟩
    cases harrives with
    | whole => exact absurd hseen (Nat.lt_irrefl _)
    | read harrives => exact harrives

omit [DecidableEq α] in
/-- Where the buffer holds no delimiter, all of it belongs to the line. -/
theorem buf_in_line {delim : α} (hbuf : delim ∉ r.buf) (h : r.rest = line ++ delim :: tail) :
    ∃ more, line = r.buf ++ more ∧ r.src.flatten = more ++ delim :: tail := by
  rcases List.append_eq_append_iff.1 h with ⟨more, hline, hsrc⟩ | ⟨more, hmore, hsrc⟩
  · exact ⟨more, hline, hsrc⟩
  · cases more with
    | nil => exact ⟨[], by simpa using hmore.symm, by simpa using hsrc.symm⟩
    | cons a more =>
      rw [List.cons_append, List.cons.injEq] at hsrc
      rw [hmore, hsrc.1] at hbuf
      simp at hbuf

/-- The buffer holds a whole line. -/
theorem Reading.cut {post : List α} (h : Reading c text d sofar stay r) {pre : List α}
    (hbuf : r.buf = pre ++ c.delim :: post) : Reading c text d [] [] { r with buf := post } where
  held := held_nil c rfl rfl
  oneLine := by simp
  buf := List.nil_prefix
  le := by
    have hle := h.le
    simp only [hbuf, List.length_append, List.length_cons] at hle
    show post.length ≤ c.size
    omega
  count := by
    rw [h.count, hbuf, ← List.append_assoc, List.foldl_append, List.foldl_cons, hold, if_pos rfl]
    rfl
  seen := h.seen

/-- The buffer holds none, and what need not stay in it leaves it. -/
theorem Reading.settle (h : Reading c text d sofar stay r) (hbuf : c.delim ∉ r.buf) :
    Reading c text d (sofar ++ (LineReader.settle c sofar r.buf).1)
      (LineReader.settle c sofar r.buf).2
      { r with buf := (LineReader.settle c sofar r.buf).2 } := by
  obtain ⟨chunk, hchunk⟩ := h.buf
  have happend := settle_append c sofar r.buf
  have hheld := h.held.settle h.oneLine (hchunk ▸ hbuf) (hchunk ▸ h.le)
  rw [hchunk] at hheld
  refine ⟨hheld, ?_, List.prefix_refl _, Nat.le_of_lt hheld.lt, ?_, h.seen⟩
  · rw [List.mem_append, not_or]
    refine ⟨h.oneLine, fun hmem => hbuf ?_⟩
    rw [← happend]
    exact List.mem_append_left _ hmem
  · rw [List.append_assoc, happend]
    exact h.count

/-- **A line is read whole, whatever the pieces.** -/
theorem Reading.readLine {fuel : Nat} (h : Reading c text d sofar stay r) (hline : c.delim ∉ line)
    (hfuel : r.weight < fuel) (hrest : r.rest = line ++ c.delim :: tail)
    (htail : d.length ≤ tail.length) :
    ∃ r', LineReader.readLine c fuel sofar r = some (sofar ++ line ++ [c.delim], r') ∧
      r'.rest = tail ∧ r'.weight ≤ r.weight ∧ Reading c text d [] [] r' ∧
      (Arrives c text r.seen r.src ↔ Arrives c text r'.seen r'.src) := by
  induction fuel generalizing sofar stay line r with
  | zero => omega
  | succ fuel ih =>
    unfold LineReader.readLine
    by_cases hbuf : c.delim ∈ r.buf
    · obtain ⟨pre, post, heq, hpre⟩ := List.eq_append_cons_of_mem hbuf
      have hsplit : pre ++ c.delim :: (post ++ r.src.flatten) = line ++ c.delim :: tail := by
        rw [← hrest, rest, heq, List.append_assoc, List.cons_append]
      obtain ⟨rfl, rfl⟩ := line_unique hpre hline hsplit
      rw [heq, cut_line hpre]
      exact ⟨{ r with buf := post }, by rw [List.append_assoc], rfl, Nat.le_refl _, h.cut heq, Iff.rfl⟩
    · obtain ⟨more, rfl, hsrc⟩ := buf_in_line hbuf hrest
      have happend := settle_append c sofar r.buf
      have hsettled := h.settle hbuf
      rw [cut_none hbuf]
      dsimp only
      generalize LineReader.settle c sofar r.buf = parts at happend hsettled ⊢
      have hlt : d.length < r.src.flatten.length := by
        rw [hsrc, List.length_append, List.length_cons]
        omega
      cases hpieces : r.src with
      | nil =>
        rw [hpieces] at hsrc
        simp at hsrc
      | cons seg src =>
        obtain ⟨r₁, hfill, hrest₁, hweight, hreading, harrives⟩ :=
          Reading.fill (r := { r with buf := parts.2 }) hsettled hpieces hlt
        have hline₁ : c.delim ∉ parts.2 ++ more := by
          rw [← happend, List.append_assoc] at hline
          exact fun hmem => hline (List.mem_append_right _ hmem)
        have hweight' : r₁.weight < r.weight := hweight
        have hrest₁' : r₁.rest = parts.2 ++ more ++ c.delim :: tail := by
          rw [hrest₁, rest, hsrc, List.append_assoc]
        obtain ⟨r', hread, hrest', hle, hreading', harrives'⟩ :=
          ih hreading hline₁ (by omega) hrest₁'
        refine ⟨r', ?_, hrest', by omega, hreading', hpieces ▸ harrives.trans harrives'⟩
        rw [← hpieces, hfill, Option.bind_some, hread]
        simp only [← happend, List.append_assoc]

/-- A line with its delimiter. -/
def IsLine (delim : α) (line : List α) : Prop := ∃ body, delim ∉ body ∧ line = body ++ [delim]

/-- **A block of lines is read whole**, and nothing after it is returned. -/
theorem Reading.readLines {last : List α → Bool} {fuel n : Nat} {lines : List (List α)}
    {final : List α} (h : Reading c text d [] [] r)
    (hlines : ∀ line ∈ lines, IsLine c.delim line ∧ last line = false)
    (hfinal : IsLine c.delim final) (hlast : last final = true) (hn : lines.length < n)
    (hfuel : r.weight < fuel) (hrest : r.rest = lines.flatten ++ final ++ d) :
    ∃ r', LineReader.readLines c last fuel n r = some (lines, r') ∧ r'.rest = d ∧
      Reading c text d [] [] r' ∧
      (Arrives c text r.seen r.src ↔ Arrives c text r'.seen r'.src) := by
  induction lines generalizing n r with
  | nil =>
    obtain ⟨m, rfl⟩ : ∃ m, n = m + 1 := ⟨n - 1, by simp at hn; omega⟩
    obtain ⟨body, hbody, rfl⟩ := hfinal
    have hrest : r.rest = body ++ c.delim :: d := by simpa using hrest
    obtain ⟨r', hread, hrest', -, hreading⟩ := h.readLine hbody hfuel hrest (Nat.le_refl _)
    refine ⟨r', ?_, hrest', hreading⟩
    simp only [LineReader.readLines, hread, List.nil_append, Option.bind_some, hlast, if_true]
  | cons line lines ih =>
    obtain ⟨m, rfl⟩ : ∃ m, n = m + 1 := ⟨n - 1, by simp at hn; omega⟩
    obtain ⟨⟨body, hbody, rfl⟩, hnot⟩ := hlines line (List.mem_cons_self ..)
    have hrest : r.rest = body ++ c.delim :: (lines.flatten ++ final ++ d) := by
      simpa using hrest
    obtain ⟨r₁, hread, hrest₁, hle, hreading₁, harrives₁⟩ :=
      h.readLine hbody hfuel hrest (by rw [List.length_append]; exact Nat.le_add_left ..)
    obtain ⟨r', hreads, hrest', hreading, harrives⟩ :=
      ih hreading₁ (fun l hl => hlines l (List.mem_cons_of_mem _ hl))
        (Nat.lt_of_succ_lt_succ hn) (by omega) hrest₁
    refine ⟨r', ?_, hrest', hreading, harrives₁.trans harrives⟩
    simp only [LineReader.readLines, hread, List.nil_append, Option.bind_some, hnot,
      Bool.false_eq_true, if_false, hreads, Option.map_some]

/-- **The buffer is empty behind the text just when a read ends with it.** -/
theorem Reading.arrives_iff (h : Reading c text d [] [] r) (hrest : r.rest = d) :
    Arrives c text r.seen r.src ↔ r.src.flatten = d := by
  have hseen : r.seen = text ++ r.buf := by
    have happend : r.seen ++ r.src.flatten = (text ++ r.buf) ++ r.src.flatten := by
      rw [h.seen, ← hrest, rest, List.append_assoc]
    exact List.append_cancel_right happend
  constructor
  · intro harrives
    have hle := harrives.length_le
    rw [hseen, List.length_append] at hle
    have hbuf : r.buf = [] := List.eq_nil_of_length_eq_zero (by omega)
    rw [← hrest, rest, hbuf, List.nil_append]
  · intro hsrc
    have hbuf : r.buf = [] := by
      rw [rest, hsrc] at hrest
      simpa using hrest
    rw [hseen, hbuf, List.append_nil]
    exact .whole _

end LineReader
