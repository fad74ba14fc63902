import Mathlib.Data.Int.GCD
import PetlibroRelay.Camera.FrameFanOut

namespace PetlibroRelay
namespace Camera

/-!
# The clock of the video track

A publisher stamps its packets with the ticks of a 90 kHz clock since it was made.
It multiplies the elapsed nanoseconds by the clock rate in 64 bits and divides
afterwards.  The stamp is exact as long as the product stays below `2 ^ 63`, which
it does for about 28 hours, and never again after that.
-/

/-- The whole ticks of the media clock in an elapsed time that is not negative. -/
def mediaTicks (elapsed : Int64) : Nat := elapsed.toInt.toNat * 90000 / 1000000000

theorem mediaTicks_eq {elapsed : Int64} (nonneg : 0 ≤ elapsed.toInt) :
    (mediaTicks elapsed : Int) = elapsed.toInt * 90000 / 1000000000 := by
  rw [mediaTicks, Int.natCast_ediv, Int.natCast_mul, Int.toNat_of_nonneg nonneg]
  rfl

theorem toNat_toUInt64 (number : Int64) : (number.toUInt64.toNat : Int) = number.toInt % 2 ^ 64 := by
  have value : number.toInt = (number.toUInt64.toNat : Int).bmod (2 ^ 64) :=
    BitVec.toInt_eq_toNat_bmod number.toBitVec
  have small : number.toUInt64.toNat < 2 ^ 64 := number.toUInt64.toNat_lt
  rw [value, show ((2 : Int) ^ 64) = ((2 ^ 64 : Nat) : Int) from rfl, Int.bmod_emod]
  omega

/-- The stamp of a packet: the wrapped product, divided towards zero, modulo `2 ^ 32`. -/
theorem timestamp_eq (encodeToAVCC : Packet -> Packet) (frame : CameraFrame) (elapsed : Int64) :
    ((trackPacket encodeToAVCC frame elapsed).timestamp.toNat : Int) =
      ((elapsed.toInt * 90000).bmod (2 ^ 64)).tdiv 1000000000 % 2 ^ 32 := by
  have divided : (elapsed * MEDIA_CLOCK_RATE / MEDIA_TIMESTAMP_DIVISOR).toInt =
      ((elapsed.toInt * 90000).bmod (2 ^ 64)).tdiv 1000000000 := by
    rw [Int64.toInt_div_of_ne_right _ _ (by decide), Int64.toInt_mul]
    rfl
  have whole := toNat_toUInt64 (elapsed * MEDIA_CLOCK_RATE / MEDIA_TIMESTAMP_DIVISOR)
  rw [trackPacket, UInt64.toNat_toUInt32, ← divided]
  omega

/-- Two divisions by a billion, of a product and of what is left of it after some turns around
64 bits.  If the quotients agree modulo `2 ^ 32`, the remainders differ by a multiple of it. -/
theorem remainders_apart {product ticks rest turns quotient remainder rounds : Int}
    (division : 1000000000 * ticks + rest = product)
    (wrapped : product - 18446744073709551616 * turns = 1000000000 * quotient + remainder)
    (apart : quotient - ticks = 4294967296 * rounds) :
    rest - remainder = 4294967296 * (4294967296 * turns + 1000000000 * rounds) := by
  omega

/-- How often a product can have turned around 64 bits. -/
theorem turns_of_wraps {product left turns : Int}
    (whole : left + 18446744073709551616 * turns = product)
    (least : -9223372036854775808 ≤ left) (most : left < 9223372036854775808)
    (wraps : 9223372036854775808 ≤ product)
    (high : product < 90000 * 9223372036854775808) : 1 ≤ turns ∧ turns ≤ 45000 := by
  omega

/-- No multiple of `2 ^ 32` that is reached is a multiple of a billion. -/
theorem turns_not_level {turns rounds : Int} (wraps : 1 ≤ turns) (bound : turns ≤ 45000) :
    4294967296 * turns + 1000000000 * rounds ≠ 0 := by
  intro level
  -- A billion has the ninth power of five as a factor, and the turns would need it too.
  have total : (1953125 : Int) ∣ 4294967296 * turns + 1000000000 * rounds := by
    rw [level]
    exact Int.dvd_zero _
  have billions : (1953125 : Int) ∣ 1000000000 * rounds :=
    Int.dvd_trans (by decide) (Int.dvd_mul_right 1000000000 rounds)
  have shared : (1953125 : Int) ∣ turns :=
    Int.dvd_of_dvd_mul_right_of_gcd_one ((Int.dvd_iff_dvd_of_dvd_add total).mpr billions)
      (by decide)
  have least := Int.le_of_dvd (Int.lt_of_lt_of_le Int.zero_lt_one wraps) shared
  exact absurd (Int.le_trans least bound) (by decide)

/-- A product that has wrapped around gives another stamp: the remainders differ by less than
`2 ^ 32`, so that they would be equal. -/
theorem wrapped_stamp_differs {product ticks rest turns quotient remainder : Int}
    (division : 1000000000 * ticks + rest = product) (start : 0 ≤ rest)
    (stop : rest < 1000000000) (wraps : 1 ≤ turns) (bound : turns ≤ 45000)
    (wrapped : product - 18446744073709551616 * turns = 1000000000 * quotient + remainder)
    (above : -1000000000 < remainder) (below : remainder < 1000000000) :
    quotient % 4294967296 ≠ ticks % 4294967296 := by
  intro same
  have divides : (4294967296 : Int) ∣ quotient - ticks :=
    Int.dvd_of_emod_eq_zero (Int.emod_eq_emod_iff_emod_sub_eq_zero.mp same)
  have gap := remainders_apart division wrapped (Int.mul_ediv_cancel' divides).symm
  clear same divides division wrapped
  generalize (quotient - ticks) / 4294967296 = rounds at gap
  apply @turns_not_level turns rounds wraps bound
  generalize 4294967296 * turns + 1000000000 * rounds = multiple at gap
  omega

/-- While the product fits, the stamp is the number of ticks modulo `2 ^ 32`. -/
theorem timestamp_of_fits (encodeToAVCC : Packet -> Packet) (frame : CameraFrame)
    {elapsed : Int64} (nonneg : 0 ≤ elapsed.toInt) (fits : elapsed.toInt * 90000 < 2 ^ 63) :
    (trackPacket encodeToAVCC frame elapsed).timestamp.toNat = mediaTicks elapsed % 2 ^ 32 := by
  have stamp := timestamp_eq encodeToAVCC frame elapsed
  rw [Int.bmod_eq_of_le (by omega) (by omega), Int.tdiv_eq_ediv_of_nonneg (by omega)] at stamp
  have ticks := mediaTicks_eq nonneg
  omega

theorem timestamp_ne_of_not_fits (encodeToAVCC : Packet -> Packet) (frame : CameraFrame)
    {elapsed : Int64} (nonneg : 0 ≤ elapsed.toInt) (wraps : 2 ^ 63 ≤ elapsed.toInt * 90000) :
    (trackPacket encodeToAVCC frame elapsed).timestamp.toNat ≠ mediaTicks elapsed % 2 ^ 32 := by
  have bound : elapsed.toInt < 2 ^ 63 := elapsed.toInt_lt
  have stamp := timestamp_eq encodeToAVCC frame elapsed
  have ticks := mediaTicks_eq nonneg
  have high : elapsed.toInt * 90000 < 90000 * 9223372036854775808 := by omega
  generalize elapsed.toInt * 90000 = product at wraps stamp ticks high
  have turned := turns_of_wraps (Int.bmod_add_bdiv product (2 ^ 64))
    (@Int.le_bmod product (2 ^ 64) (by decide)) (@Int.bmod_lt product (2 ^ 64) (by decide))
    wraps high
  have wrapped : product - 18446744073709551616 * product.bdiv (2 ^ 64) =
      1000000000 * (product.bmod (2 ^ 64)).tdiv 1000000000 +
        (product.bmod (2 ^ 64)).tmod 1000000000 := by
    rw [Int.mul_tdiv_add_tmod]
    exact Int.sub_eq_iff_eq_add.mpr (Int.bmod_add_bdiv product (2 ^ 64)).symm
  have differs := wrapped_stamp_differs (Int.mul_ediv_add_emod product 1000000000)
    (Int.emod_nonneg product (by decide)) (Int.emod_lt_of_pos product (by decide))
    turned.1 turned.2 wrapped (Int.lt_tmod_of_pos _ (by decide)) (Int.tmod_lt_of_pos _ (by decide))
  intro same
  apply differs
  rw [← ticks]
  rw [same] at stamp
  exact stamp.symm

/-- The stamps that a publisher has given up to some time are exact, and differ by the ticks
between the frames, exactly while the product fits. -/
theorem timestamps_exact_iff (encodeToAVCC : Packet -> Packet) (frame : CameraFrame)
    (elapsed : Int64) (nonneg : 0 ≤ elapsed.toInt) :
    ((trackPacket encodeToAVCC frame elapsed).timestamp.toNat = mediaTicks elapsed % 2 ^ 32 ∧
        forall (earlierFrame : CameraFrame) (earlier : Int64), 0 ≤ earlier.toInt ->
          earlier.toInt ≤ elapsed.toInt ->
            (trackPacket encodeToAVCC frame elapsed).timestamp -
                (trackPacket encodeToAVCC earlierFrame earlier).timestamp =
              UInt32.ofNat (mediaTicks elapsed - mediaTicks earlier)) ↔
      elapsed.toInt * 90000 < 2 ^ 63 := by
  constructor
  · rintro ⟨exact_stamp, -⟩
    by_contra wraps
    exact timestamp_ne_of_not_fits encodeToAVCC frame nonneg (Int.not_lt.mp wraps) exact_stamp
  · intro fits
    have stamp := timestamp_of_fits encodeToAVCC frame nonneg fits
    refine ⟨stamp, ?_⟩
    intro earlierFrame earlier known before
    have stampEarlier := timestamp_of_fits encodeToAVCC earlierFrame known
      (Int.lt_of_le_of_lt (Int.mul_le_mul_of_nonneg_right before (by decide)) fits)
    have order : mediaTicks earlier ≤ mediaTicks elapsed := by
      rw [mediaTicks, mediaTicks]
      omega
    apply UInt32.toNat_inj.mp
    rw [UInt32.toNat_sub, stamp, stampEarlier, UInt32.toNat_ofNat']
    omega

/-- A frame with one slice. -/
def sliceFrame : CameraFrame := ⟨0, 0, { timestamp := 0, keyframe := false, data := [0, 0, 1, 65] }⟩

/-- An hour after the publisher was made, the stamps are exact. -/
theorem first_hour_exact :
    (trackPacket id sliceFrame 3600000000000).timestamp.toNat =
        mediaTicks 3600000000000 % 2 ^ 32 ∧
      forall (earlierFrame : CameraFrame) (earlier : Int64), 0 ≤ earlier.toInt ->
        earlier.toInt ≤ (3600000000000 : Int64).toInt ->
          (trackPacket id sliceFrame 3600000000000).timestamp -
              (trackPacket id earlierFrame earlier).timestamp =
            UInt32.ofNat (mediaTicks 3600000000000 - mediaTicks earlier) :=
  (timestamps_exact_iff id sliceFrame 3600000000000 (by decide)).mpr (by decide)

/-- Twenty-nine hours after the publisher was made, the stamp is another one. -/
theorem later_stamp_jumps :
    ¬ forall (encodeToAVCC : Packet -> Packet) (frame : CameraFrame) (elapsed : Int64),
      0 ≤ elapsed.toInt ->
        (trackPacket encodeToAVCC frame elapsed).timestamp.toNat =
          mediaTicks elapsed % 2 ^ 32 := by
  intro stamps
  exact absurd (stamps id sliceFrame 104400000000000 (by decide)) (by decide +kernel)

end Camera
end PetlibroRelay
