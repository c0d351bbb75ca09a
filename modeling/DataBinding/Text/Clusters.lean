/-
Clusters: letters as a reader sees them. A cluster is a character with
the leading marks before it and every mark after it. Two pictures with a
joiner between them are one cluster, and so are three and more: the
joiner may follow extending marks of the first picture, but nothing else.
Cutting a text into clusters loses nothing (`flatMap_clusters`).
-/
import DataBinding.Text.Marks

namespace DataBinding.Text

/-- The property Extended_Pictographic (version 17). -/
def pictograph : Ranges :=
  [(0xA9, 0xA9), (0xAE, 0xAE), (0x203C, 0x203C), (0x2049, 0x2049), (0x2122, 0x2122),
   (0x2139, 0x2139), (0x2194, 0x2199), (0x21A9, 0x21AA), (0x231A, 0x231B),
   (0x2328, 0x2328), (0x23CF, 0x23CF), (0x23E9, 0x23F3), (0x23F8, 0x23FA),
   (0x24C2, 0x24C2), (0x25AA, 0x25AB), (0x25B6, 0x25B6), (0x25C0, 0x25C0),
   (0x25FB, 0x25FE), (0x2600, 0x2604), (0x260E, 0x260E), (0x2611, 0x2611),
   (0x2614, 0x2615), (0x2618, 0x2618), (0x261D, 0x261D), (0x2620, 0x2620),
   (0x2622, 0x2623), (0x2626, 0x2626), (0x262A, 0x262A), (0x262E, 0x262F),
   (0x2638, 0x263A), (0x2640, 0x2640), (0x2642, 0x2642), (0x2648, 0x2653),
   (0x265F, 0x2660), (0x2663, 0x2663), (0x2665, 0x2666), (0x2668, 0x2668),
   (0x267B, 0x267B), (0x267E, 0x267F), (0x2692, 0x2697), (0x2699, 0x2699),
   (0x269B, 0x269C), (0x26A0, 0x26A1), (0x26A7, 0x26A7), (0x26AA, 0x26AB),
   (0x26B0, 0x26B1), (0x26BD, 0x26BE), (0x26C4, 0x26C5), (0x26C8, 0x26C8),
   (0x26CE, 0x26CF), (0x26D1, 0x26D1), (0x26D3, 0x26D4), (0x26E9, 0x26EA),
   (0x26F0, 0x26F5), (0x26F7, 0x26FA), (0x26FD, 0x26FD), (0x2702, 0x2702),
   (0x2705, 0x2705), (0x2708, 0x270D), (0x270F, 0x270F), (0x2712, 0x2712),
   (0x2714, 0x2714), (0x2716, 0x2716), (0x271D, 0x271D), (0x2721, 0x2721),
   (0x2728, 0x2728), (0x2733, 0x2734), (0x2744, 0x2744), (0x2747, 0x2747),
   (0x274C, 0x274C), (0x274E, 0x274E), (0x2753, 0x2755), (0x2757, 0x2757),
   (0x2763, 0x2764), (0x2795, 0x2797), (0x27A1, 0x27A1), (0x27B0, 0x27B0),
   (0x27BF, 0x27BF), (0x2934, 0x2935), (0x2B05, 0x2B07), (0x2B1B, 0x2B1C),
   (0x2B50, 0x2B50), (0x2B55, 0x2B55), (0x3030, 0x3030), (0x303D, 0x303D),
   (0x3297, 0x3297), (0x3299, 0x3299), (0x1F004, 0x1F004), (0x1F02C, 0x1F02F),
   (0x1F094, 0x1F09F), (0x1F0AF, 0x1F0B0), (0x1F0C0, 0x1F0C0), (0x1F0CF, 0x1F0D0),
   (0x1F0F6, 0x1F0FF), (0x1F170, 0x1F171), (0x1F17E, 0x1F17F), (0x1F18E, 0x1F18E),
   (0x1F191, 0x1F19A), (0x1F1AE, 0x1F1E5), (0x1F201, 0x1F20F), (0x1F21A, 0x1F21A),
   (0x1F22F, 0x1F22F), (0x1F232, 0x1F23A), (0x1F23C, 0x1F23F), (0x1F249, 0x1F25F),
   (0x1F266, 0x1F321), (0x1F324, 0x1F393), (0x1F396, 0x1F397), (0x1F399, 0x1F39B),
   (0x1F39E, 0x1F3F0), (0x1F3F3, 0x1F3F5), (0x1F3F7, 0x1F3FA), (0x1F400, 0x1F4FD),
   (0x1F4FF, 0x1F53D), (0x1F549, 0x1F54E), (0x1F550, 0x1F567), (0x1F56F, 0x1F570),
   (0x1F573, 0x1F57A), (0x1F587, 0x1F587), (0x1F58A, 0x1F58D), (0x1F590, 0x1F590),
   (0x1F595, 0x1F596), (0x1F5A4, 0x1F5A5), (0x1F5A8, 0x1F5A8), (0x1F5B1, 0x1F5B2),
   (0x1F5BC, 0x1F5BC), (0x1F5C2, 0x1F5C4), (0x1F5D1, 0x1F5D3), (0x1F5DC, 0x1F5DE),
   (0x1F5E1, 0x1F5E1), (0x1F5E3, 0x1F5E3), (0x1F5E8, 0x1F5E8), (0x1F5EF, 0x1F5EF),
   (0x1F5F3, 0x1F5F3), (0x1F5FA, 0x1F64F), (0x1F680, 0x1F6C5), (0x1F6CB, 0x1F6D2),
   (0x1F6D5, 0x1F6E5), (0x1F6E9, 0x1F6E9), (0x1F6EB, 0x1F6F0), (0x1F6F3, 0x1F6FF),
   (0x1F7DA, 0x1F7FF), (0x1F80C, 0x1F80F), (0x1F848, 0x1F84F), (0x1F85A, 0x1F85F),
   (0x1F888, 0x1F88F), (0x1F8AE, 0x1F8AF), (0x1F8BC, 0x1F8BF), (0x1F8C2, 0x1F8CF),
   (0x1F8D9, 0x1F8FF), (0x1F90C, 0x1F93A), (0x1F93C, 0x1F945), (0x1F947, 0x1F9FF),
   (0x1FA58, 0x1FA5F), (0x1FA6E, 0x1FAFF), (0x1FC00, 0x1FFFD)]

def isPicture (c : Char) : Bool := pictograph.holds c.toNat

/-- A character and what its cluster holds after it. -/
abbrev Cluster := Char × List Char

/-- Extending marks and then a joiner, with nothing behind it. -/
def endsInJoiner : List Char → Bool
  | [] => false
  | [c] => c == joiner
  | c :: rest => extendsCluster c && endsInJoiner rest

/-- Put a character before clusters: into the first of them when one of
the two is a mark of the other. -/
def attach (c : Char) : List Cluster → List Cluster
  | (d, tail) :: more =>
    if leadsCluster c || continuesCluster d then (c, d :: tail) :: more
    else (c, []) :: (d, tail) :: more
  | [] => [(c, [])]

/-- Let a picture that ends in a joiner take up the picture behind it. -/
def joinPictures : List Cluster → List Cluster
  | (c, tail) :: (d, more) :: rest =>
    if isPicture c && isPicture d && endsInJoiner tail then (c, tail ++ d :: more) :: rest
    else (c, tail) :: (d, more) :: rest
  | short => short

/-- The clusters of a text. -/
def clusters : List Char → List Cluster
  | [] => []
  | c :: rest => joinPictures (attach c (clusters rest))

/-- The text of clusters, one after the other. -/
def clustersText (parts : List Cluster) : List Char :=
  parts.flatMap fun cluster => cluster.1 :: cluster.2

theorem clustersText_attach (c : Char) (parts : List Cluster) :
    clustersText (attach c parts) = c :: clustersText parts := by
  cases parts with
  | nil => rfl
  | cons first more =>
    simp only [attach]
    split <;> simp [clustersText]

theorem clustersText_joinPictures (parts : List Cluster) :
    clustersText (joinPictures parts) = clustersText parts := by
  match parts with
  | [] => rfl
  | [_] => rfl
  | (c, tail) :: (d, more) :: rest =>
    simp only [joinPictures]
    split <;> simp [clustersText]

/-- Cutting into clusters loses no character. -/
theorem flatMap_clusters (cs : List Char) :
    (clusters cs).flatMap (fun cluster => cluster.1 :: cluster.2) = cs := by
  change clustersText (clusters cs) = cs
  induction cs with
  | nil => rfl
  | cons c rest ih =>
    rw [clusters, clustersText_joinPictures, clustersText_attach, ih]

end DataBinding.Text
