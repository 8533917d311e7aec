namespace EntityGraph.Text

def isBlank (c : Char) : Bool :=
  let n := c.toNat
  (9 ≤ n && n ≤ 13) || n == 0x20 || n == 0x85 || n == 0xA0 || n == 0x1680 ||
    (0x2000 ≤ n && n ≤ 0x200A) || n == 0x2028 || n == 0x2029 || n == 0x202F || n == 0x205F ||
    n == 0x3000

def dropWhileEnd (p : Char → Bool) (cs : List Char) : List Char :=
  (cs.reverse.dropWhile p).reverse

def trimBy (p : Char → Bool) (cs : List Char) : List Char :=
  dropWhileEnd p (cs.dropWhile p)

def trim (cs : List Char) : List Char :=
  trimBy isBlank cs

theorem dropWhileEnd_eq_self {p : Char → Bool} {cs : List Char}
    (h : ∀ c ∈ cs.getLast?, p c = false) : dropWhileEnd p cs = cs := by
  unfold dropWhileEnd
  cases hr : cs.reverse with
  | nil => simp at hr; simp [hr]
  | cons x xs =>
      have hx : x ∈ cs.getLast? := by
        rw [← List.head?_reverse, hr]; rfl
      rw [List.dropWhile_cons_of_neg (by simp [h x hx]), ← hr, List.reverse_reverse]

end EntityGraph.Text
