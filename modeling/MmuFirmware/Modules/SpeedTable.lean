import Mathlib.Data.Nat.Basic
import Mathlib.Algebra.Order.Ring.Nat

/-!
The timer interval that belongs to a step rate: two tables of intervals and their gains, one
row for each step of the rate, and a linear interpolation between the rows. The products are
those of the assembly the firmware is built with, which rounds them.
-/
namespace MmuFirmware

namespace Config

def maxStepFrequency : BitVec 16 := 40000
def minStepRate : BitVec 32 := 120
def stepTimerQuantum : BitVec 16 := 256
def dropSegments : BitVec 32 := 0

/-- `F_CPU / 500000`. -/
def minTableRate : BitVec 16 := 32

end Config

/-- The product of a byte and a word, without its lowest byte. -/
def mulU8X16toH16 (charIn1 intIn2 : BitVec 16) : BitVec 16 :=
  BitVec.ofNat 16 ((charIn1.toNat * intIn2.toNat + 128) / 256)

def speedTableFast : List (Nat × Nat) :=
  [
    (62500, 55556), (6944, 3268), (3676, 1176), (2500, 607), (1893, 369), (1524, 249),
    (1275, 179), (1096, 135), (961, 105), (856, 85), (771, 69), (702, 58), (644, 49), (595, 42),
    (553, 37), (516, 32), (484, 28), (456, 25), (431, 23), (408, 20), (388, 19), (369, 16),
    (353, 16), (337, 14), (323, 13), (310, 11), (299, 11), (288, 11), (277, 9), (268, 9),
    (259, 8), (251, 8), (243, 8), (235, 7), (228, 6), (222, 6), (216, 6), (210, 6), (204, 5),
    (199, 5), (194, 5), (189, 4), (185, 4), (181, 4), (177, 4), (173, 4), (169, 4), (165, 3),
    (162, 3), (159, 4), (155, 3), (152, 3), (149, 2), (147, 3), (144, 3), (141, 2), (139, 3),
    (136, 2), (134, 2), (132, 3), (129, 2), (127, 2), (125, 2), (123, 2), (121, 2), (119, 1),
    (118, 2), (116, 2), (114, 1), (113, 2), (111, 2), (109, 1), (108, 2), (106, 1), (105, 2),
    (103, 1), (102, 1), (101, 1), (100, 2), (98, 1), (97, 1), (96, 1), (95, 2), (93, 1), (92, 1),
    (91, 1), (90, 1), (89, 1), (88, 1), (87, 1), (86, 1), (85, 1), (84, 1), (83, 0), (83, 1),
    (82, 1), (81, 1), (80, 1), (79, 1), (78, 0), (78, 1), (77, 1), (76, 1), (75, 0), (75, 1),
    (74, 1), (73, 1), (72, 0), (72, 1), (71, 1), (70, 0), (70, 1), (69, 0), (69, 1), (68, 1),
    (67, 0), (67, 1), (66, 0), (66, 1), (65, 0), (65, 1), (64, 1), (63, 0), (63, 1), (62, 0),
    (62, 1), (61, 0), (61, 1), (60, 0), (60, 0), (60, 1), (59, 0), (59, 1), (58, 0), (58, 1),
    (57, 0), (57, 1), (56, 0), (56, 0), (56, 1), (55, 0), (55, 1), (54, 0), (54, 0), (54, 1),
    (53, 0), (53, 0), (53, 1), (52, 0), (52, 0), (52, 1), (51, 0), (51, 0), (51, 1), (50, 0),
    (50, 0), (50, 1), (49, 0), (49, 0), (49, 1), (48, 0), (48, 0), (48, 1), (47, 0), (47, 0),
    (47, 0), (47, 1), (46, 0), (46, 0), (46, 1), (45, 0), (45, 0), (45, 0), (45, 1), (44, 0),
    (44, 0), (44, 0), (44, 1), (43, 0), (43, 0), (43, 0), (43, 1), (42, 0), (42, 0), (42, 0),
    (42, 1), (41, 0), (41, 0), (41, 0), (41, 0), (41, 1), (40, 0), (40, 0), (40, 0), (40, 0),
    (40, 1), (39, 0), (39, 0), (39, 0), (39, 0), (39, 1), (38, 0), (38, 0), (38, 0), (38, 0),
    (38, 1), (37, 0), (37, 0), (37, 0), (37, 0), (37, 0), (37, 1), (36, 0), (36, 0), (36, 0),
    (36, 0), (36, 1), (35, 0), (35, 0), (35, 0), (35, 0), (35, 0), (35, 0), (35, 1), (34, 0),
    (34, 0), (34, 0), (34, 0), (34, 0), (34, 1), (33, 0), (33, 0), (33, 0), (33, 0), (33, 0),
    (33, 0), (33, 1), (32, 0), (32, 0), (32, 0), (32, 0), (32, 0), (32, 0), (32, 0), (32, 1),
    (31, 0), (31, 0), (31, 0), (31, 0), (31, 0), (31, 0), (31, 1), (30, 0), (30, 0), (30, 0),
    (30, 0)
  ]

def speedTableSlow : List (Nat × Nat) :=
  [
    (62500, 12500), (50000, 8334), (41666, 5952), (35714, 4464), (31250, 3473), (27777, 2777),
    (25000, 2273), (22727, 1894), (20833, 1603), (19230, 1373), (17857, 1191), (16666, 1041),
    (15625, 920), (14705, 817), (13888, 731), (13157, 657), (12500, 596), (11904, 541),
    (11363, 494), (10869, 453), (10416, 416), (10000, 385), (9615, 356), (9259, 331),
    (8928, 308), (8620, 287), (8333, 269), (8064, 252), (7812, 237), (7575, 223), (7352, 210),
    (7142, 198), (6944, 188), (6756, 178), (6578, 168), (6410, 160), (6250, 153), (6097, 145),
    (5952, 139), (5813, 132), (5681, 126), (5555, 121), (5434, 115), (5319, 111), (5208, 106),
    (5102, 102), (5000, 99), (4901, 94), (4807, 91), (4716, 87), (4629, 84), (4545, 81),
    (4464, 79), (4385, 75), (4310, 73), (4237, 71), (4166, 68), (4098, 66), (4032, 64),
    (3968, 62), (3906, 60), (3846, 59), (3787, 56), (3731, 55), (3676, 53), (3623, 52),
    (3571, 50), (3521, 49), (3472, 48), (3424, 46), (3378, 45), (3333, 44), (3289, 43),
    (3246, 41), (3205, 41), (3164, 39), (3125, 39), (3086, 38), (3048, 36), (3012, 36),
    (2976, 35), (2941, 35), (2906, 33), (2873, 33), (2840, 32), (2808, 31), (2777, 30),
    (2747, 30), (2717, 29), (2688, 29), (2659, 28), (2631, 27), (2604, 27), (2577, 26),
    (2551, 26), (2525, 25), (2500, 25), (2475, 25), (2450, 23), (2427, 24), (2403, 23),
    (2380, 22), (2358, 22), (2336, 22), (2314, 21), (2293, 21), (2272, 20), (2252, 20),
    (2232, 20), (2212, 20), (2192, 19), (2173, 18), (2155, 19), (2136, 18), (2118, 18),
    (2100, 17), (2083, 17), (2066, 17), (2049, 17), (2032, 16), (2016, 16), (2000, 16),
    (1984, 16), (1968, 15), (1953, 16), (1937, 14), (1923, 15), (1908, 15), (1893, 14),
    (1879, 14), (1865, 14), (1851, 13), (1838, 14), (1824, 13), (1811, 13), (1798, 13),
    (1785, 12), (1773, 13), (1760, 12), (1748, 12), (1736, 12), (1724, 12), (1712, 12),
    (1700, 11), (1689, 12), (1677, 11), (1666, 11), (1655, 11), (1644, 11), (1633, 10),
    (1623, 11), (1612, 10), (1602, 10), (1592, 10), (1582, 10), (1572, 10), (1562, 10),
    (1552, 9), (1543, 10), (1533, 9), (1524, 9), (1515, 9), (1506, 9), (1497, 9), (1488, 9),
    (1479, 9), (1470, 9), (1461, 8), (1453, 8), (1445, 9), (1436, 8), (1428, 8), (1420, 8),
    (1412, 8), (1404, 8), (1396, 8), (1388, 7), (1381, 8), (1373, 7), (1366, 8), (1358, 7),
    (1351, 7), (1344, 8), (1336, 7), (1329, 7), (1322, 7), (1315, 7), (1308, 6), (1302, 7),
    (1295, 7), (1288, 6), (1282, 7), (1275, 6), (1269, 7), (1262, 6), (1256, 6), (1250, 7),
    (1243, 6), (1237, 6), (1231, 6), (1225, 6), (1219, 6), (1213, 6), (1207, 6), (1201, 5),
    (1196, 6), (1190, 6), (1184, 5), (1179, 6), (1173, 5), (1168, 6), (1162, 5), (1157, 5),
    (1152, 6), (1146, 5), (1141, 5), (1136, 5), (1131, 5), (1126, 5), (1121, 5), (1116, 5),
    (1111, 5), (1106, 5), (1101, 5), (1096, 5), (1091, 5), (1086, 4), (1082, 5), (1077, 5),
    (1072, 4), (1068, 5), (1063, 4), (1059, 5), (1054, 4), (1050, 4), (1046, 5), (1041, 4),
    (1037, 4), (1033, 5), (1028, 4), (1024, 4), (1020, 4), (1016, 4), (1012, 4), (1008, 4),
    (1004, 4), (1000, 4), (996, 4), (992, 4), (988, 4), (984, 4), (980, 4), (976, 4), (972, 4),
    (968, 3), (965, 3)
  ]

/-- A row of a table, as the words it is made of. -/
def readRow (table : List (Nat × Nat)) (row : Nat) : BitVec 16 × BitVec 16 :=
  let entry := table.getD row (0, 0)
  (BitVec.ofNat 16 entry.1, BitVec.ofNat 16 entry.2)

/-- The rate of the interrupt and the number of steps it takes each time. -/
def stepLoops (stepRate : BitVec 16) : BitVec 16 × Nat :=
  let stepRate := if stepRate > Config.maxStepFrequency then Config.maxStepFrequency else stepRate
  if stepRate > 20000 then ((stepRate >>> 2) &&& 0x3fff, 4)
  else if stepRate > 10000 then ((stepRate >>> 1) &&& 0x7fff, 2)
  else (stepRate, 1)

def tableTimer (stepRate : BitVec 16) : BitVec 16 :=
  if stepRate ≥ 8 * 256 then
    let row := readRow speedTableFast (stepRate >>> 8).toNat
    row.1 - mulU8X16toH16 (stepRate &&& 0x00ff) row.2
  else
    let row := readRow speedTableSlow (stepRate >>> 3).toNat
    row.1 - ((row.2 * (stepRate &&& 0x0007)) >>> 3)

/-- The interval, and the number of steps for one interrupt. -/
def calcTimer (stepRate : BitVec 16) : BitVec 16 × Nat :=
  let (stepRate, loops) := stepLoops stepRate
  let stepRate := if stepRate < Config.minTableRate then Config.minTableRate else stepRate
  let timer := tableTimer (stepRate - Config.minTableRate)
  (if timer < 100 then 100 else timer, loops)

theorem stepLoops_pos (stepRate : BitVec 16) : 0 < (stepLoops stepRate).2 := by
  simp only [stepLoops]
  generalize (if stepRate > Config.maxStepFrequency then Config.maxStepFrequency else stepRate) = r
  split
  · exact Nat.zero_lt_succ 3
  · split
    · exact Nat.zero_lt_succ 1
    · exact Nat.zero_lt_succ 0

/-- The longest interval of the tables, that of the lowest rate. -/
def maxInterval : Nat := 62500

def GainInside (table : List (Nat × Nat)) : Prop :=
  ∀ row ∈ table, row.2 ≤ row.1 ∧ row.1 ≤ maxInterval

theorem gainInside_fast : GainInside speedTableFast := by
  unfold GainInside
  decide +kernel

theorem gainInside_slow : GainInside speedTableSlow := by
  unfold GainInside
  decide +kernel

theorem toNat_readRow {table : List (Nat × Nat)} (h : GainInside table) (row : Nat) :
    (readRow table row).1.toNat = (table.getD row (0, 0)).1 ∧
      (readRow table row).2.toNat = (table.getD row (0, 0)).2 ∧
      (table.getD row (0, 0)).2 ≤ (table.getD row (0, 0)).1 ∧
      (table.getD row (0, 0)).1 ≤ maxInterval := by
  have hentry : (table.getD row (0, 0)).2 ≤ (table.getD row (0, 0)).1 ∧
      (table.getD row (0, 0)).1 ≤ maxInterval := by
    rw [List.getD_eq_getElem?_getD]
    cases hrow : table[row]? with
    | none => exact ⟨Nat.le_refl 0, Nat.zero_le _⟩
    | some entry => exact h entry (List.mem_of_getElem? hrow)
  have hlt : maxInterval < 2 ^ 16 := by decide
  rw [readRow]
  dsimp only
  rw [BitVec.toNat_ofNat, BitVec.toNat_ofNat, Nat.mod_eq_of_lt (by omega),
    Nat.mod_eq_of_lt (by omega)]
  exact ⟨rfl, rfl, hentry⟩

theorem toNat_mul_le {a b : BitVec 16} (h : a.toNat < 256) :
    (mulU8X16toH16 a b).toNat ≤ b.toNat := by
  have hprod : a.toNat * b.toNat ≤ 255 * b.toNat := Nat.mul_le_mul_right _ (by omega)
  have hb := b.isLt
  rw [mulU8X16toH16, BitVec.toNat_ofNat, Nat.mod_eq_of_lt (by omega)]
  omega

theorem toNat_low (stepRate : BitVec 16) (bits : Nat) (hbits : bits < 16) :
    (stepRate &&& BitVec.ofNat 16 (2 ^ bits - 1)).toNat = stepRate.toNat % 2 ^ bits := by
  have hpow : 2 ^ bits - 1 < 2 ^ 16 :=
    (Nat.sub_le _ _).trans_lt (Nat.pow_lt_pow_right (by decide) hbits)
  rw [BitVec.toNat_and, BitVec.toNat_ofNat, Nat.mod_eq_of_lt hpow,
    Nat.and_two_pow_sub_one_eq_mod]

/-- The timer of a fast rate: what the gain takes off is rounded. -/
theorem toNat_tableTimer_fast {r : BitVec 16} (h : 2048 ≤ r.toNat) :
    (tableTimer r).toNat = (speedTableFast.getD (r.toNat / 256) (0, 0)).1 -
      (r.toNat % 256 * (speedTableFast.getD (r.toNat / 256) (0, 0)).2 + 128) / 256 := by
  have hfast : r ≥ 8 * 256 := by
    rw [ge_iff_le, BitVec.le_def]
    exact h
  have hshift : (r >>> 8).toNat = r.toNat / 256 := by
    rw [BitVec.toNat_ushiftRight, Nat.shiftRight_eq_div_pow]
  have hlow : (r &&& 0x00ff).toNat = r.toNat % 256 := toNat_low r 8 (by decide)
  obtain ⟨htimer, hgain, hinside, hmax⟩ := toNat_readRow gainInside_fast (r.toNat / 256)
  have hmul : (mulU8X16toH16 (r &&& 0x00ff) (readRow speedTableFast (r.toNat / 256)).2).toNat ≤
      (readRow speedTableFast (r.toNat / 256)).2.toNat :=
    toNat_mul_le (by rw [hlow]; exact Nat.mod_lt _ (by decide))
  have hprod : r.toNat % 256 * (speedTableFast.getD (r.toNat / 256) (0, 0)).2 ≤
      255 * (speedTableFast.getD (r.toNat / 256) (0, 0)).2 := Nat.mul_le_mul_right _ (by omega)
  rw [maxInterval] at hmax
  rw [tableTimer, if_pos hfast, hshift]
  dsimp only
  rw [BitVec.toNat_sub_of_le (BitVec.le_def.mpr (by omega)), htimer, mulU8X16toH16,
    BitVec.toNat_ofNat, hlow, hgain, Nat.mod_eq_of_lt (by omega)]

/-- That of a slow one: here the product is a word, and what it takes off is cut. -/
theorem toNat_tableTimer_slow {r : BitVec 16} (h : r.toNat < 2048) :
    (tableTimer r).toNat = (speedTableSlow.getD (r.toNat / 8) (0, 0)).1 -
      (speedTableSlow.getD (r.toNat / 8) (0, 0)).2 * (r.toNat % 8) % 2 ^ 16 / 8 := by
  have hslow : ¬ r ≥ 8 * 256 := by
    rw [ge_iff_le, BitVec.le_def]
    exact Nat.not_le.mpr h
  have hshift : (r >>> 3).toNat = r.toNat / 8 := by
    rw [BitVec.toNat_ushiftRight, Nat.shiftRight_eq_div_pow]
  have hlow : (r &&& 0x0007).toNat = r.toNat % 8 := toNat_low r 3 (by decide)
  obtain ⟨htimer, hgain, hinside, -⟩ := toNat_readRow gainInside_slow (r.toNat / 8)
  have hprod : (speedTableSlow.getD (r.toNat / 8) (0, 0)).2 * (r.toNat % 8) ≤
      (speedTableSlow.getD (r.toNat / 8) (0, 0)).2 * 7 := Nat.mul_le_mul_left _ (by omega)
  have hpart : (((readRow speedTableSlow (r.toNat / 8)).2 * (r &&& 0x0007)) >>> 3).toNat =
      (speedTableSlow.getD (r.toNat / 8) (0, 0)).2 * (r.toNat % 8) % 2 ^ 16 / 8 := by
    rw [BitVec.toNat_ushiftRight, BitVec.toNat_mul, Nat.shiftRight_eq_div_pow, hgain, hlow]
  have hcut := Nat.mod_le ((speedTableSlow.getD (r.toNat / 8) (0, 0)).2 * (r.toNat % 8)) (2 ^ 16)
  rw [tableTimer, if_neg hslow, hshift]
  dsimp only
  rw [BitVec.toNat_sub_of_le (BitVec.le_def.mpr (by omega)), htimer, hpart]

theorem tableTimer_le (stepRate : BitVec 16) : (tableTimer stepRate).toNat ≤ maxInterval := by
  rcases le_or_gt 2048 stepRate.toNat with hfast | hslow
  · rw [toNat_tableTimer_fast hfast]
    exact (Nat.sub_le _ _).trans (toNat_readRow gainInside_fast _).2.2.2
  · rw [toNat_tableTimer_slow hslow]
    exact (Nat.sub_le _ _).trans (toNat_readRow gainInside_slow _).2.2.2

/-- Every interval is long enough for the interrupt and short enough for the timer. -/
theorem calcTimer_bounds (stepRate : BitVec 16) :
    100 ≤ (calcTimer stepRate).1.toNat ∧ (calcTimer stepRate).1.toNat ≤ maxInterval := by
  simp only [calcTimer]
  generalize (if (stepLoops stepRate).1 < Config.minTableRate then Config.minTableRate
    else (stepLoops stepRate).1) - Config.minTableRate = r
  have hle := tableTimer_le r
  split
  · exact ⟨Nat.le_refl 100, by decide⟩
  · next hlt =>
    rw [BitVec.lt_def] at hlt
    exact ⟨Nat.le_of_not_lt hlt, hle⟩

theorem calcTimer_loops_pos (stepRate : BitVec 16) : 0 < (calcTimer stepRate).2 :=
  stepLoops_pos stepRate

theorem calcTimer_loops_le (stepRate : BitVec 16) : (calcTimer stepRate).2 ≤ 4 := by
  show (stepLoops stepRate).2 ≤ 4
  simp only [stepLoops]
  generalize (if stepRate > Config.maxStepFrequency then Config.maxStepFrequency else stepRate) = r
  split
  · exact Nat.le_refl 4
  · split
    · exact (by decide : 2 ≤ 4)
    · exact (by decide : 1 ≤ 4)

/-! The rates whose intervals are as long as a quantum. -/

namespace Config

/-- The fastest rate of the interrupt whose interval is a quantum. -/
def quantumRate : Nat := 7823

end Config

theorem fast_above : ∀ row < 30,
    256 + (speedTableFast.getD row (0, 0)).2 ≤ (speedTableFast.getD row (0, 0)).1 := by
  decide +kernel

theorem fast_below : ∀ row < 256, 30 < row → (speedTableFast.getD row (0, 0)).1 < 256 := by
  decide +kernel

theorem slow_above : ∀ row < 256,
    256 + (speedTableSlow.getD row (0, 0)).2 ≤ (speedTableSlow.getD row (0, 0)).1 := by
  decide +kernel

theorem quantum_le_tableTimer_iff (r : BitVec 16) :
    256 ≤ (tableTimer r).toNat ↔ r.toNat + 32 ≤ Config.quantumRate := by
  have hr := r.isLt
  rw [Config.quantumRate]
  rcases le_or_gt 2048 r.toNat with hfast | hslow
  · rw [toNat_tableTimer_fast hfast]
    rcases lt_trichotomy (r.toNat / 256) 30 with hbelow | hrow | habove
    · have hentry := fast_above (r.toNat / 256) hbelow
      have hprod : r.toNat % 256 * (speedTableFast.getD (r.toNat / 256) (0, 0)).2 ≤
          255 * (speedTableFast.getD (r.toNat / 256) (0, 0)).2 :=
        Nat.mul_le_mul_right _ (by omega)
      omega
    · have hentry : speedTableFast.getD 30 (0, 0) = (259, 8) := rfl
      rw [hrow, hentry]
      omega
    · have hentry := fast_below (r.toNat / 256) (by omega) habove
      omega
  · rw [toNat_tableTimer_slow hslow]
    have hentry := slow_above (r.toNat / 8) (by omega)
    have hprod : (speedTableSlow.getD (r.toNat / 8) (0, 0)).2 * (r.toNat % 8) ≤
        (speedTableSlow.getD (r.toNat / 8) (0, 0)).2 * 7 := Nat.mul_le_mul_left _ (by omega)
    have hcut := Nat.mod_le
      ((speedTableSlow.getD (r.toNat / 8) (0, 0)).2 * (r.toNat % 8)) (2 ^ 16)
    omega

/-- An interval is a quantum or longer just if the interrupt is to come no faster than
`Config.quantumRate`, however many steps it takes each time. -/
theorem quantum_le_calcTimer_iff (stepRate : BitVec 16) :
    Config.stepTimerQuantum.toNat ≤ (calcTimer stepRate).1.toNat ↔
      (stepLoops stepRate).1.toNat ≤ Config.quantumRate := by
  have hquantum : Config.stepTimerQuantum.toNat = 256 := rfl
  have hmin : Config.minTableRate.toNat = 32 := rfl
  have hrate : Config.quantumRate = 7823 := rfl
  have hfloor : (100 : BitVec 16).toNat = 100 := rfl
  rw [hquantum]
  simp only [calcTimer]
  generalize (stepLoops stepRate).1 = rate
  have hshifted : ((if rate < Config.minTableRate then Config.minTableRate else rate) -
      Config.minTableRate).toNat = rate.toNat - 32 := by
    simp only [BitVec.lt_def]
    split
    · rw [BitVec.sub_self]
      have hzero : (0#16).toNat = 0 := rfl
      omega
    · rw [BitVec.toNat_sub_of_le (BitVec.le_def.mpr (by omega)), hmin]
  generalize (if rate < Config.minTableRate then Config.minTableRate else rate) -
    Config.minTableRate = r at hshifted
  have hiff := quantum_le_tableTimer_iff r
  simp only [BitVec.lt_def]
  split <;> omega

attribute [irreducible] calcTimer

end MmuFirmware
