import Mathlib

/-!
# Hash chains

A chain of blocks in which every block repeats the hash of the one before it and is
sealed by a hash of that link and its body. Checking a chain from its start tells
whether it is linked; as long as no two of the sealed pairs collide, what passes the
check with hashes taken from a linked chain is a prefix of that chain.
-/

namespace HashChain

variable {Link Body : Type*}

/-- A body between the link it continues and the hash that seals both. -/
@[ext]
structure Block (Link Body : Type*) where
  prev : Link
  body : Body
  hash : Link

def Block.sealed (block : Block Link Body) : Link × Body :=
  (block.prev, block.body)

variable (digest : Link → Body → Link)

/-- Every block continues the one before it and carries the right hash. -/
def Linked : Link → List (Block Link Body) → Prop
  | _, [] => True
  | start, block :: blocks =>
      block.prev = start ∧ block.hash = digest block.prev block.body ∧
        Linked block.hash blocks

def head (start : Link) (blocks : List (Block Link Body)) : Link :=
  blocks.foldl (fun _ block => block.hash) start

def links (start : Link) (blocks : List (Block Link Body)) : List Link :=
  start :: blocks.map Block.hash

variable {digest} {start : Link} {blocks blocks' : List (Block Link Body)}

@[simp]
theorem linked_nil : Linked digest start [] := trivial

@[simp]
theorem linked_cons {block : Block Link Body} :
    Linked digest start (block :: blocks) ↔ block.prev = start ∧
      block.hash = digest block.prev block.body ∧ Linked digest block.hash blocks := Iff.rfl

@[simp]
theorem head_nil : head start ([] : List (Block Link Body)) = start := rfl

@[simp]
theorem head_cons (block : Block Link Body) :
    head start (block :: blocks) = head block.hash blocks := rfl

theorem head_append :
    head start (blocks ++ blocks') = head (head start blocks) blocks' :=
  List.foldl_append

theorem linked_append :
    Linked digest start (blocks ++ blocks') ↔
      Linked digest start blocks ∧ Linked digest (head start blocks) blocks' := by
  induction blocks generalizing start with
  | nil => simp
  | cons block blocks ih => simp [ih, and_assoc]

theorem Linked.of_prefix (hlinked : Linked digest start blocks)
    (hinitial : blocks' <+: blocks) : Linked digest start blocks' := by
  obtain ⟨rest, rfl⟩ := hinitial
  exact (linked_append.mp hlinked).1

/-- A block of a linked chain stands between two neighbouring links. -/
theorem Linked.getElem? (hlinked : Linked digest start blocks) {index : ℕ}
    {block : Block Link Body} (hblock : blocks[index]? = some block) :
    (links start blocks)[index]? = some block.prev ∧
      (links start blocks)[index + 1]? = some block.hash ∧
      block.hash = digest block.prev block.body := by
  induction blocks generalizing start index with
  | nil => simp at hblock
  | cons first blocks ih =>
      obtain ⟨hprev, hhash, hrest⟩ := hlinked
      cases index with
      | zero =>
          rw [List.getElem?_cons_zero, Option.some.injEq] at hblock
          subst hblock
          subst hprev
          exact ⟨rfl, rfl, hhash⟩
      | succ index =>
          rw [List.getElem?_cons_succ] at hblock
          simpa [links] using ih hrest hblock

/-- Every link after the start seals a block. -/
theorem exists_of_links {index : ℕ} {link : Link}
    (hlink : (links start blocks)[index + 1]? = some link) :
    ∃ block, blocks[index]? = some block ∧ block.hash = link := by
  rw [links, List.getElem?_cons_succ, List.getElem?_map] at hlink
  exact Option.map_eq_some_iff.mp hlink

section CollisionFree

variable {pairs : Set (Link × Body)}

/-- No link of a chain occurs twice. -/
theorem Linked.links_injective (hlinked : Linked digest start blocks)
    (hfree : pairs.InjOn fun pair => digest pair.1 pair.2)
    (hpairs : ∀ block ∈ blocks, block.sealed ∈ pairs)
    (hstart : ∀ prev body, digest prev body ≠ start) {left right : ℕ} (hlt : left < right)
    {link : Link} (hright : (links start blocks)[right]? = some link) :
    (links start blocks)[left]? ≠ some link := by
  induction left generalizing right link with
  | zero =>
      intro hleft
      obtain ⟨right, rfl⟩ := Nat.exists_eq_succ_of_ne_zero (Nat.ne_of_gt hlt)
      obtain ⟨block, hblock, hhash⟩ := exists_of_links hright
      have hseal := (hlinked.getElem? hblock).2.2
      rw [links, List.getElem?_cons_zero, Option.some.injEq] at hleft
      exact hstart block.prev block.body (by rw [← hseal, hhash, hleft])
  | succ left ih =>
      intro hleft
      obtain ⟨right, rfl⟩ := Nat.exists_eq_succ_of_ne_zero (Nat.ne_of_gt (Nat.zero_lt_of_lt hlt))
      obtain ⟨block, hblock, hhash⟩ := exists_of_links hleft
      obtain ⟨block', hblock', hhash'⟩ := exists_of_links hright
      obtain ⟨hprev, -, hseal⟩ := hlinked.getElem? hblock
      obtain ⟨hprev', -, hseal'⟩ := hlinked.getElem? hblock'
      -- Equal hashes digest equal links, which stand one place earlier.
      have hsame : block.sealed = block'.sealed := by
        apply hfree (hpairs block (List.mem_of_getElem? hblock))
          (hpairs block' (List.mem_of_getElem? hblock'))
        calc digest block.prev block.body = block.hash := hseal.symm
          _ = link := hhash
          _ = block'.hash := hhash'.symm
          _ = digest block'.prev block'.body := hseal'
      have hlinks : block.prev = block'.prev := congrArg Prod.fst hsame
      rw [← hlinks] at hprev'
      exact ih (Nat.lt_of_succ_lt_succ hlt) hprev' hprev

/-- A block that continues a link of the chain, with link and hash of one of its
blocks, stands in the chain at that link. -/
theorem Linked.of_link (hlinked : Linked digest start blocks)
    (hfree : pairs.InjOn fun pair => digest pair.1 pair.2)
    (hpairs : ∀ block ∈ blocks, block.sealed ∈ pairs)
    (hstart : ∀ prev body, digest prev body ≠ start) {block : Block Link Body}
    (hpair : block.sealed ∈ pairs) (hhash : block.hash = digest block.prev block.body)
    (htaken : ∃ original ∈ blocks, original.prev = block.prev ∧ original.hash = block.hash)
    {index : ℕ} (hlink : (links start blocks)[index]? = some block.prev) :
    blocks[index]? = some block := by
  obtain ⟨original, hmem, hprev, hsameHash⟩ := htaken
  obtain ⟨place, horiginal⟩ := List.getElem?_of_mem hmem
  obtain ⟨hplace, -, hseal⟩ := hlinked.getElem? horiginal
  rw [hprev] at hplace
  have hindex : place = index := by
    rcases lt_trichotomy place index with hlt | heq | hgt
    · exact absurd hplace (hlinked.links_injective hfree hpairs hstart hlt hlink)
    · exact heq
    · exact absurd hlink (hlinked.links_injective hfree hpairs hstart hgt hplace)
  have hsame : original.sealed = block.sealed := by
    apply hfree (hpairs original hmem) hpair
    calc digest original.prev original.body = original.hash := hseal.symm
      _ = block.hash := hsameHash
      _ = digest block.prev block.body := hhash
  have hblock : original = block :=
    Block.ext hprev (congrArg Prod.snd hsame) hsameHash
  rw [← hindex, horiginal, hblock]

/-- A linked chain whose blocks carry the links and hashes of blocks of another linked
chain from the same start is a prefix of it. -/
theorem Linked.isPrefix (hlinked : Linked digest start blocks)
    (hlinked' : Linked digest start blocks')
    (hfree : pairs.InjOn fun pair => digest pair.1 pair.2)
    (hpairs : ∀ block ∈ blocks, block.sealed ∈ pairs)
    (hpairs' : ∀ block ∈ blocks', block.sealed ∈ pairs)
    (hstart : ∀ prev body, digest prev body ≠ start)
    (htaken : ∀ block ∈ blocks', ∃ original ∈ blocks,
      original.prev = block.prev ∧ original.hash = block.hash) :
    blocks' <+: blocks := by
  have hsame : ∀ (index : ℕ) (block : Block Link Body), blocks'[index]? = some block →
      blocks[index]? = some block := by
    intro index
    induction index with
    | zero =>
        intro block hblock
        have hlink : (links start blocks)[0]? = some block.prev :=
          (hlinked'.getElem? hblock).1
        exact hlinked.of_link hfree hpairs hstart
          (hpairs' block (List.mem_of_getElem? hblock)) (hlinked'.getElem? hblock).2.2
          (htaken block (List.mem_of_getElem? hblock)) hlink
    | succ index ih =>
        intro block hblock
        obtain ⟨hprev, -, hhash⟩ := hlinked'.getElem? hblock
        obtain ⟨before, hbefore, hbeforeHash⟩ := exists_of_links hprev
        have hlink : (links start blocks)[index + 1]? = some block.prev := by
          rw [(hlinked.getElem? (ih before hbefore)).2.1, hbeforeHash]
        exact hlinked.of_link hfree hpairs hstart
          (hpairs' block (List.mem_of_getElem? hblock)) hhash
          (htaken block (List.mem_of_getElem? hblock)) hlink
  rw [List.prefix_iff_getElem?]
  intro index hindex
  exact hsame index blocks'[index] (List.getElem?_eq_getElem hindex)

end CollisionFree

end HashChain
