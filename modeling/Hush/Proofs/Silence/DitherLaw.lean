import Hush.Proofs.Pcm.Words
import Hush.Proofs.Silence.Rendering

/-!
# The law of dither in machine words

Samples are worked out here as a machine does it: draws are signed words, their low parts are taken
with a mask, and the difference is shifted down. No step leaves the range of a word, so this is the
arithmetic on whole numbers, and a sample is one step below zero where the low part of the draws
falls.
-/
namespace Hush.Silence

/-- A draw as a signed word: its upper 63 bits. -/
def drawWord (w : UInt64) : Int64 := (w >>> 1).toInt64

/-- The mask of what lies below the format's least significant bit. -/
def maskWord (l : Layout) : Int64 := (1 <<< Int64.ofNat l.ditherShift) - 1

/-- The low part of a draw. -/
def lowPart (l : Layout) (draw : Int64) : Int64 := draw &&& maskWord l

/-- The sample of one slot in signed words. -/
def wordSample (l : Layout) (dither : Bool) (draw previous : Int64) : Int64 :=
  let hyperSample := if dither then lowPart l draw - lowPart l previous else 0
  hyperSample >>> Int64.ofNat l.ditherShift

/-- The draw that a fill goes on from, and those that it makes. -/
def wordsDrawn (g : Generator) (c : Int64) (frames : Nat) : List Int64 :=
  c :: (g.draws (2 * frames)).map drawWord

variable {f : Format} {l : Layout}

/-! ### No step leaves the range of a word -/

theorem toInt_drawWord (w : UInt64) : (drawWord w).toInt = Generator.signedDraw w := by
  have hhalf : w.toNat / 2 = (w >>> 1).toNat := Int.ofNat.inj (Generator.signedDraw_eq w)
  have hsmall : 2 * (w >>> 1).toNat < 2 ^ 64 := by
    have hlt := w.toNat_lt
    omega
  rw [Generator.signedDraw_eq, drawWord, Int64.toInt, UInt64.toBitVec_toInt64,
    BitVec.toInt_eq_toNat_of_lt (by rwa [UInt64.toNat_toBitVec]), UInt64.toNat_toBitVec]

theorem ditherShift_lt (hl : f.layout? = some l) : l.ditherShift < 63 := by
  cases f <;> cases hl <;> decide

theorem toBitVec_maskWord (hl : f.layout? = some l) :
    (maskWord l).toBitVec = BitVec.ofNat 64 (2 ^ l.ditherShift - 1) := by
  cases f <;> cases hl <;> decide

theorem toInt_maskWord (hl : f.layout? = some l) :
    (maskWord l).toInt = 2 ^ (64 - l.bitDepth) - 1 := by
  cases f <;> cases hl <;> decide

/-- The low part of a draw is its remainder, also for a draw below zero. -/
theorem toInt_lowPart (hl : f.layout? = some l) (draw : Int64) :
    (lowPart l draw).toInt = draw.toInt % (2 ^ l.ditherShift : Nat) := by
  have hshift := ditherShift_lt hl
  have hpow : 2 ^ l.ditherShift ≤ 2 ^ 62 := Nat.pow_le_pow_right (by decide) (by omega)
  have hpos := Nat.two_pow_pos l.ditherShift
  have hdvd : ((2 ^ l.ditherShift : Nat) : Int) ∣ (2 ^ 64 : Nat) :=
    Int.natCast_dvd_natCast.mpr (Nat.pow_dvd_pow 2 (by omega))
  have hlow : (lowPart l draw).toBitVec.toNat = draw.toBitVec.toNat % 2 ^ l.ditherShift := by
    rw [lowPart, Int64.toBitVec_and, toBitVec_maskWord hl, BitVec.toNat_and, BitVec.toNat_ofNat,
      Nat.mod_eq_of_lt (by omega), Nat.and_two_pow_sub_one_eq_mod]
  have hlt := Nat.mod_lt draw.toBitVec.toNat hpos
  -- A word and its unsigned reading differ by a multiple of all that a word can count.
  have hword : draw.toInt % (2 ^ 64 : Nat) = draw.toBitVec.toNat % (2 ^ 64 : Nat) := by
    rw [Int64.toInt, BitVec.toInt_eq_toNat_bmod, Int.bmod_emod]
  rw [Int64.toInt, BitVec.toInt_eq_toNat_of_lt (by omega), hlow, Int.natCast_mod]
  rw [← Int.emod_emod_of_dvd draw.toInt hdvd, hword, Int.emod_emod_of_dvd _ hdvd]

theorem toInt_lowPart_sub (hl : f.layout? = some l) (draw previous : Int64) :
    (lowPart l draw - lowPart l previous).toInt =
      (lowPart l draw).toInt - (lowPart l previous).toInt := by
  have hpow : (2 ^ l.ditherShift : Nat) ≤ 2 ^ 62 :=
    Nat.pow_le_pow_right (by decide) (Nat.le_of_lt_succ (ditherShift_lt hl))
  have hpos : (0 : Int) < (2 ^ l.ditherShift : Nat) := by
    exact_mod_cast Nat.two_pow_pos _
  have hdraw := Int.emod_nonneg draw.toInt (Int.ne_of_gt hpos)
  have hdraw' := Int.emod_lt_of_pos draw.toInt hpos
  have hprevious := Int.emod_nonneg previous.toInt (Int.ne_of_gt hpos)
  have hprevious' := Int.emod_lt_of_pos previous.toInt hpos
  rw [Int64.toInt_sub, toInt_lowPart hl, toInt_lowPart hl]
  apply Int.bmod_eq_of_le <;> omega

/-- A sample worked out in words is the sample of the whole numbers that the words stand for. -/
theorem toInt_wordSample (hl : f.layout? = some l) (dither : Bool) (draw previous : Int64) :
    (wordSample l dither draw previous).toInt = sample l dither draw.toInt previous.toInt := by
  have hshift := ditherShift_lt hl
  rw [wordSample, toInt_shiftRight (by omega), sample]
  cases dither with
  | false => rfl
  | true =>
    simp only [if_true]
    rw [toInt_lowPart_sub hl, toInt_lowPart hl, toInt_lowPart hl]
    rfl

theorem sample_eq_of_lowPart (hl : f.layout? = some l) (dither : Bool) (draw previous : Int64) :
    sample l dither draw.toInt previous.toInt =
      if dither = true ∧ lowPart l draw < lowPart l previous then -1 else 0 := by
  rw [sample_eq_ite]
  simp only [Int64.lt_iff_toInt_lt, toInt_lowPart hl]
  rfl

/-! ### The words of a fill -/

variable {g : Generator} {buffer : List UInt8} {frames : Nat} {dither : Bool} {c : Int64}
  {out : Filled}

@[simp] theorem length_wordsDrawn (g : Generator) (c : Int64) (frames : Nat) :
    (wordsDrawn g c frames).length = 2 * frames + 1 := by
  simp [wordsDrawn]

/-- The words of a fill stand for the draw that it goes on from and the draws of its block. -/
theorem map_toInt_wordsDrawn (g : Generator) (c : Int64) (frames : Nat) :
    (wordsDrawn g c frames).map Int64.toInt =
      c.toInt :: (g.draws (frames * Format.outputChannels)).map Generator.signedDraw := by
  rw [wordsDrawn, List.map_cons, List.map_map, Nat.mul_comm]
  exact congrArg _ (List.map_congr_left fun w _ => toInt_drawWord w)

/-- Each sample of a fill comes from two words that follow each other. -/
theorem sampled_eq_zipWith (g : Generator) (frames : Nat) (l : Layout) (dither : Bool)
    (c : Int64) :
    sampled g frames l dither c.toInt =
      List.zipWith (fun draw previous => sample l dither draw.toInt previous.toInt)
        (wordsDrawn g c frames).tail (wordsDrawn g c frames) := by
  have hwords := map_toInt_wordsDrawn g c frames
  have htail := congrArg List.tail hwords
  rw [← List.map_tail, List.tail_cons] at htail
  rw [sampled, samples, ← hwords, ← htail, List.zipWith_map]

/-- The sample of each place. -/
theorem getElem_sampled (hl : f.layout? = some l) {k : Nat}
    (hk : k < (sampled g frames l dither c.toInt).length) {draw previous : Int64}
    (hdraw : (wordsDrawn g c frames)[k + 1]? = some draw)
    (hprevious : (wordsDrawn g c frames)[k]? = some previous) :
    (sampled g frames l dither c.toInt)[k] =
      if dither = true ∧ lowPart l draw < lowPart l previous then -1 else 0 := by
  have htail : (wordsDrawn g c frames).tail[k]? = some draw := by
    rw [List.getElem?_tail, hdraw]
  apply Option.some.inj
  rw [← List.getElem?_eq_getElem hk, sampled_eq_zipWith, List.getElem?_zipWith, htail, hprevious]
  exact congrArg some (sample_eq_of_lowPart hl dither draw previous)

/-- The last word is the draw to go on from. -/
theorem getElem?_wordsDrawn_of_fill (hl : f.layout? = some l)
    (h : fill g buffer frames f dither c.toInt = .ok out) :
    (wordsDrawn g c frames)[2 * frames]?.map Int64.toInt = some out.continuation := by
  have hlast : (wordsDrawn g c frames)[2 * frames]? = (wordsDrawn g c frames).getLast? := by
    rw [List.getLast?_eq_getElem?, length_wordsDrawn]
    rfl
  rw [eq_filled_of_fill hl h, hlast, ← List.getLast?_map, map_toInt_wordsDrawn, List.getLast?_cons]
  rfl

/-- Of unsigned bytes, one below the middle stands for a sample below zero. -/
theorem getElem?_of_byte_slot {bytes : List UInt8} {k : Nat} {x : Int} (hx : x = 0 ∨ x = -1)
    (h : (bytes.drop k).take 1 = Pcm.slot ⟨8, 1, .native, false, .none⟩ x) :
    bytes[k]? = some (if x = 0 then 0x80 else 0x7F) := by
  have hbyte : Pcm.slot ⟨8, 1, .native, false, .none⟩ x = [if x = 0 then 0x80 else 0x7F] := by
    rcases hx with rfl | rfl <;> decide
  have hfirst := congrArg (fun slot : List UInt8 => slot[0]?) (h.trans hbyte)
  simpa using hfirst

/-- Dither is exact. Whatever draw a fill goes on from, each slot is written as, and reads as, one
step below zero where dither is on and the low part of the draws falls, and as zero elsewhere. In
machine words no difference and no shift on the way leaves their range. The last draw is what the
fill hands on. -/
theorem dither_is_exact {f : Format} {l : Layout} (hl : f.layout? = some l) {g : Generator}
    {buffer : List UInt8} {frames : Nat} {dither : Bool} {c : Int64} {out : Filled}
    (h : fill g buffer frames f dither c.toInt = .ok out) :
    let m := maskWord l
    let r := wordsDrawn g c frames
    l.ditherShift < 63 ∧ m.toInt = 2 ^ (64 - l.bitDepth) - 1 ∧
    (∀ k < 2 * frames, ∃ draw previous, r[k + 1]? = some draw ∧ r[k]? = some previous ∧
      let s : Int := if dither = true ∧ draw &&& m < previous &&& m then -1 else 0
      ((draw &&& m) - (previous &&& m)).toInt = (draw &&& m).toInt - (previous &&& m).toInt ∧
      (wordSample l dither draw previous).toInt = s ∧
      (∀ room : List UInt8, room.length = l.byteWidth → Pcm.encode f room s =
        .ok ((out.buffer.drop (k * l.byteWidth)).take l.byteWidth)) ∧
      Pcm.decode f (out.buffer.drop (k * l.byteWidth)) = .ok s ∧
      (f = .u8 → out.buffer[k]? = some (if s = 0 then 0x80 else 0x7F))) ∧
    r[2 * frames]?.map Int64.toInt = some out.continuation := by
  intro m r
  refine ⟨ditherShift_lt hl, toInt_maskWord hl, ?_, getElem?_wordsDrawn_of_fill hl h⟩
  intro k hk
  have hlength : r.length = 2 * frames + 1 := length_wordsDrawn g c frames
  have hlast : k + 1 < r.length := by omega
  have hdraw : r[k + 1]? = some r[k + 1] := List.getElem?_eq_getElem hlast
  have hprevious : r[k]? = some r[k] := List.getElem?_eq_getElem (Nat.lt_of_succ_lt hlast)
  have hk' : k < (sampled g frames l dither c.toInt).length := by rwa [length_sampled]
  refine ⟨_, _, hdraw, hprevious, ?_⟩
  intro s
  have hs : (sampled g frames l dither c.toInt)[k] = s := getElem_sampled hl hk' hdraw hprevious
  have hencode := fun (room : List UInt8) (hroom : room.length = l.byteWidth) =>
    encode_of_fill hl h hk' hroom
  have hdecode := decode_of_fill hl h hk'
  rw [hs] at hencode hdecode
  refine ⟨toInt_lowPart_sub hl _ _, ?_, hencode, hdecode, ?_⟩
  · rw [toInt_wordSample hl, sample_eq_of_lowPart hl]
    rfl
  · rintro rfl
    cases hl
    have hslot := slot_of_fill rfl h hk'
    have hmem := mem_samples (List.getElem_mem hk')
    rw [hs] at hslot hmem
    rw [Nat.mul_one] at hslot
    exact getElem?_of_byte_slot hmem hslot

/-- From a draw below zero on, one frame of bytes holds both samples that there are. -/
theorem dither_is_exact_one_frame :
    let filled := fill ⟨1, 2, 3, 4⟩ [9, 9, 9] 1 .u8 true (-1)
    ∃ out, filled = .ok out ∧ Pcm.decode .u8 out.buffer = .ok (-1) ∧
      Pcm.decode .u8 (out.buffer.drop 1) = .ok 0 ∧ out.buffer[0]? = some 0x7F ∧
      out.buffer[1]? = some 0x80 ∧ out.continuation = 9223336577603768127 := by
  intro filled
  have hfilled : filled = .ok _ := (fill_eq_ok_iff _ _ _ _ _ _ _).mpr
    ⟨_, rfl, by decide, by decide, rfl⟩
  have hdrawn : wordsDrawn ⟨1, 2, 3, 4⟩ (-1) 1 = [-1, 12161, 9223336577603768127] := by decide
  obtain ⟨-, -, hslots, hlast⟩ := dither_is_exact (c := -1) rfl hfilled
  rw [hdrawn] at hslots hlast
  obtain ⟨_, _, hdraw, hprevious, -, -, -, hdecode, hbyte⟩ := hslots 0 (by decide)
  cases hdraw
  cases hprevious
  obtain ⟨_, _, hdraw', hprevious', -, -, -, hdecode', hbyte'⟩ := hslots 1 (by decide)
  cases hdraw'
  cases hprevious'
  exact ⟨_, hfilled, hdecode, hdecode', hbyte rfl, hbyte' rfl, (Option.some.inj hlast).symm⟩

end Hush.Silence
