import TaskPlan.Text.Runs

/-!
# Punctuation, symbols and other characters

The general categories of punctuation and symbols, and those of code points that
are no characters of a text, each as the runs of its code points.
-/

namespace TaskPlan

namespace Text

def connectorPunctuationRuns : List Nat := [
  95, 1, 8159, 2, 19, 1, 56798, 2, 24, 3, 239, 1]

def dashPunctuationRuns : List Nat := [
  45, 1, 1372, 1, 51, 1, 3649, 1, 1029, 1, 2057, 6, 3585, 1, 2, 1, 31, 2, 4, 1, 28, 1, 446, 1,
  19, 1, 111, 1, 52624, 2, 37, 1, 10, 1, 169, 1, 3999, 1]

def openPunctuationRuns : List Nat := [
  40, 1, 50, 1, 31, 1, 3774, 1, 1, 1, 1886, 1, 2430, 1, 3, 1, 38, 1, 55, 1, 15, 1, 634, 1, 1, 1,
  30, 1, 1086, 1, 1, 1, 1, 1, 1, 1, 1, 1, 1, 1, 1, 1, 80, 1, 32, 1, 1, 1, 1, 1, 1, 1, 1, 1, 404,
  1, 1, 1, 1, 1, 1, 1, 1, 1, 1, 1, 1, 1, 1, 1, 1, 1, 1, 1, 1, 1, 64, 1, 1, 1, 33, 1, 1061, 1, 1,
  1, 1, 1, 1, 1, 25, 1, 18, 1, 1, 1, 1, 1, 1, 1, 428, 1, 1, 1, 1, 1, 1, 1, 1, 1, 3, 1, 1, 1, 1,
  1, 1, 1, 2, 1, 52513, 1, 215, 1, 29, 1, 1, 1, 1, 1, 1, 1, 1, 1, 1, 1, 1, 1, 1, 1, 3, 1, 17, 1,
  1, 1, 1, 1, 170, 1, 50, 1, 31, 1, 3, 1, 2, 1]

def closePunctuationRuns : List Nat := [
  41, 1, 51, 1, 31, 1, 3773, 1, 1, 1, 1886, 1, 2473, 1, 55, 1, 15, 1, 634, 1, 1, 1, 30, 1, 1086,
  1, 1, 1, 1, 1, 1, 1, 1, 1, 1, 1, 1, 1, 80, 1, 32, 1, 1, 1, 1, 1, 1, 1, 1, 1, 404, 1, 1, 1, 1,
  1, 1, 1, 1, 1, 1, 1, 1, 1, 1, 1, 1, 1, 1, 1, 1, 1, 64, 1, 1, 1, 33, 1, 1061, 1, 1, 1, 1, 1, 1,
  1, 44, 1, 1, 1, 1, 1, 1, 1, 428, 1, 1, 1, 1, 1, 1, 1, 1, 1, 3, 1, 1, 1, 1, 1, 1, 1, 2, 2,
  52510, 1, 217, 1, 29, 1, 1, 1, 1, 1, 1, 1, 1, 1, 1, 1, 1, 1, 1, 1, 3, 1, 17, 1, 1, 1, 1, 1,
  170, 1, 51, 1, 31, 1, 2, 1, 2, 1]

def initialPunctuationRuns : List Nat := [
  171, 1, 8044, 1, 2, 2, 2, 1, 25, 1, 3528, 1, 1, 1, 4, 1, 2, 1, 15, 1, 3, 1]

def finalPunctuationRuns : List Nat := [
  187, 1, 8029, 1, 3, 1, 28, 1, 3528, 1, 1, 1, 4, 1, 2, 1, 15, 1, 3, 1]

def otherPunctuationRuns : List Nat := [
  33, 3, 1, 3, 2, 1, 1, 1, 1, 2, 10, 2, 3, 2, 27, 1, 68, 1, 5, 1, 14, 2, 7, 1, 702, 1, 8, 1,
  466, 6, 41, 1, 54, 1, 2, 1, 2, 1, 44, 2, 20, 2, 1, 2, 13, 1, 1, 3, 74, 4, 102, 1, 43, 14, 233,
  3, 54, 15, 31, 1, 261, 2, 10, 1, 140, 1, 120, 1, 121, 1, 390, 1, 12, 1, 367, 1, 90, 1, 10, 2,
  168, 15, 1, 1, 112, 1, 74, 5, 4, 2, 111, 6, 171, 1, 612, 9, 773, 1, 124, 3, 71, 2, 157, 3, 1,
  3, 37, 6, 1, 4, 313, 2, 216, 2, 128, 7, 1, 6, 172, 7, 28, 2, 125, 4, 59, 5, 62, 2, 64, 8, 11,
  1, 834, 2, 8, 8, 8, 9, 2, 4, 2, 3, 3, 11, 1, 1, 1, 10, 3226, 4, 1, 2, 112, 1, 143, 2, 4, 3, 2,
  1, 2, 9, 1, 2, 1, 1, 2, 2, 10, 5, 1, 10, 2, 4, 1, 1, 1, 13, 2, 3, 428, 3, 57, 1, 189, 1,
  29698, 2, 269, 3, 99, 1, 10, 1, 115, 6, 380, 4, 86, 2, 40, 3, 1, 1, 49, 2, 47, 1, 97, 13, 16,
  2, 124, 4, 126, 2, 16, 2, 249, 1, 21028, 7, 2, 1, 22, 1, 20, 2, 2, 4, 3, 3, 1, 4, 7, 3, 6, 1,
  1, 2, 149, 3, 1, 3, 2, 1, 1, 1, 1, 2, 10, 2, 3, 2, 27, 1, 36, 1, 2, 2, 410, 3, 668, 1, 48, 1,
  414, 1, 743, 1, 199, 1, 31, 1, 272, 9, 38, 1, 112, 7, 66, 7, 89, 4, 952, 5, 44, 4, 189, 7,
  109, 2, 1, 4, 126, 4, 48, 2, 79, 4, 4, 1, 13, 1, 1, 3, 88, 6, 107, 1, 417, 5, 10, 2, 1, 1,
  104, 1, 250, 23, 105, 3, 28, 13, 76, 1, 130, 3, 252, 1, 264, 3, 155, 1, 92, 8, 83, 3, 1, 5,
  93, 10, 311, 5, 42, 2, 645, 2, 74, 13, 175, 1, 1136, 5, 2940, 2, 14971, 2, 133, 1, 65, 5, 8,
  1, 850, 4, 327, 1, 19644, 1, 7655, 5, 3794, 2]

def mathSymbolRuns : List Nat := [
  43, 1, 16, 3, 61, 1, 1, 1, 45, 1, 4, 1, 37, 1, 31, 1, 766, 1, 527, 3, 6715, 1, 13, 1, 39, 3,
  13, 3, 139, 1, 39, 5, 6, 1, 68, 5, 5, 2, 4, 1, 2, 1, 2, 1, 7, 1, 31, 2, 2, 1, 1, 1, 31, 268,
  32, 2, 90, 1, 30, 25, 40, 6, 469, 1, 9, 1, 54, 8, 111, 1, 336, 5, 2, 31, 10, 16, 256, 131, 22,
  63, 4, 32, 2, 258, 48, 21, 2, 6, 53212, 1, 824, 1, 1, 3, 164, 1, 16, 3, 61, 1, 1, 1, 131, 1,
  6, 4, 54996, 1, 25, 1, 31, 1, 25, 1, 31, 1, 25, 1, 31, 1, 25, 1, 31, 1, 25, 1, 5932, 2]

def currencySymbolRuns : List Nat := [
  36, 1, 125, 4, 1257, 1, 123, 1, 498, 2, 498, 2, 7, 1, 245, 1, 263, 1, 581, 1, 2459, 1, 2244,
  33, 34679, 1, 21955, 1, 108, 1, 154, 1, 219, 2, 3, 2, 8182, 4, 49950, 1, 2480, 1]

def modifierSymbolRuns : List Nat := [
  94, 1, 1, 1, 71, 1, 6, 1, 4, 1, 3, 1, 521, 4, 12, 14, 5, 7, 1, 1, 1, 17, 117, 1, 14, 2, 1282,
  1, 5940, 1, 1, 3, 11, 3, 13, 3, 13, 3, 13, 2, 4252, 2, 30307, 23, 9, 2, 103, 2, 976, 1, 14, 2,
  20550, 17, 891, 1, 1, 1, 162, 1, 62487, 5]

def otherSymbolRuns : List Nat := [
  166, 1, 2, 1, 4, 1, 1, 1, 977, 1, 266, 2, 127, 2, 206, 1, 10, 1, 19, 2, 247, 1, 515, 1, 373,
  1, 130, 6, 1, 1, 132, 1, 207, 1, 41, 1, 391, 3, 15, 1, 1, 3, 2, 6, 20, 1, 1, 1, 1, 1, 133, 8,
  1, 6, 1, 2, 5, 4, 197, 2, 752, 10, 723, 1, 722, 1, 157, 34, 353, 10, 9, 9, 1411, 2, 1, 4, 1,
  2, 10, 1, 1, 2, 6, 6, 1, 1, 1, 1, 1, 1, 4, 1, 11, 2, 14, 1, 1, 2, 1, 1, 58, 2, 9, 5, 2, 4, 1,
  2, 1, 2, 1, 7, 1, 31, 2, 2, 1, 1, 1, 31, 268, 8, 4, 20, 2, 7, 2, 81, 1, 30, 25, 40, 6, 69, 25,
  11, 81, 78, 22, 183, 1, 9, 1, 54, 8, 111, 1, 248, 44, 44, 64, 256, 512, 48, 21, 2, 6, 39, 2,
  32, 1, 105, 229, 6, 357, 2, 46, 26, 1, 89, 12, 214, 26, 12, 8, 1, 13, 2, 12, 1, 21, 2, 6, 2,
  336, 2, 4, 10, 32, 36, 28, 31, 11, 30, 8, 1, 15, 32, 10, 39, 15, 320, 6592, 64, 22160, 55,
  865, 4, 10, 2, 1, 1, 573, 3, 21190, 16, 127, 1, 45, 3, 484, 1, 3, 1, 4, 2, 13, 2, 313, 9, 57,
  17, 2, 3, 1, 13, 3, 1, 47, 45, 1658, 2, 591, 1, 3190, 1, 2197, 8, 4, 17, 19274, 4, 5, 1,
  20822, 1, 4787, 116, 60, 246, 10, 39, 2, 60, 5, 3, 22, 2, 7, 30, 4, 61, 21, 66, 3, 1, 186, 87,
  1193, 512, 55, 4, 50, 8, 1, 14, 1, 2, 1736, 1, 2908, 1, 129, 1, 721, 44, 4, 100, 12, 15, 2,
  15, 1, 15, 1, 37, 23, 161, 56, 29, 13, 44, 4, 9, 7, 2, 14, 6, 154, 251, 5, 728, 4, 17, 3, 13,
  3, 119, 4, 95, 6, 12, 4, 1, 15, 12, 4, 56, 8, 10, 6, 40, 8, 30, 2, 2, 78, 340, 12, 14, 2, 13,
  3, 9, 7, 46, 1, 7, 8, 14, 4, 9, 7, 9, 7, 147, 1, 55]

def controlRuns : List Nat := [
  0, 32, 95, 33]

def formatRuns : List Nat := [
  173, 1, 1362, 6, 22, 1, 192, 1, 49, 1, 384, 2, 80, 1, 3883, 1, 2044, 5, 26, 5, 49, 5, 1, 10,
  56975, 1, 249, 3, 4289, 1, 15, 1, 9058, 16, 34912, 4, 5327, 8, 798342, 1, 30, 96]

def surrogateRuns : List Nat := [
  55296, 2048]

def privateUseRuns : List Nat := [
  57344, 6400, 919296, 65534, 2, 65534]

def unassignedRuns : List Nat := [
  888, 2, 6, 4, 7, 1, 1, 1, 20, 1, 397, 1, 38, 2, 50, 2, 3, 1, 55, 8, 27, 4, 6, 11, 270, 1, 60,
  2, 101, 14, 59, 2, 49, 2, 15, 1, 28, 2, 1, 1, 11, 5, 31, 1, 2, 6, 236, 1, 8, 2, 2, 2, 22, 1,
  7, 1, 1, 3, 4, 2, 9, 2, 2, 2, 4, 8, 1, 4, 2, 1, 5, 2, 25, 2, 3, 1, 6, 4, 2, 2, 22, 1, 7, 1, 2,
  1, 2, 1, 2, 2, 1, 1, 5, 4, 2, 2, 3, 3, 1, 7, 4, 1, 1, 7, 17, 10, 3, 1, 9, 1, 3, 1, 22, 1, 7,
  1, 2, 1, 5, 2, 10, 1, 3, 1, 3, 2, 1, 15, 4, 2, 12, 7, 7, 1, 3, 1, 8, 2, 2, 2, 22, 1, 7, 1, 2,
  1, 5, 2, 9, 2, 2, 2, 3, 7, 3, 4, 2, 1, 5, 2, 18, 10, 2, 1, 6, 3, 3, 1, 4, 3, 2, 1, 1, 1, 2, 3,
  2, 3, 3, 3, 12, 4, 5, 3, 3, 1, 4, 2, 1, 6, 1, 14, 21, 5, 13, 1, 3, 1, 23, 1, 16, 2, 9, 1, 3,
  1, 4, 7, 2, 1, 3, 2, 1, 2, 4, 2, 10, 7, 22, 1, 3, 1, 23, 1, 10, 1, 5, 2, 9, 1, 3, 1, 4, 7, 2,
  6, 2, 1, 4, 2, 10, 1, 3, 12, 13, 1, 3, 1, 51, 1, 3, 1, 6, 4, 16, 2, 26, 1, 3, 1, 18, 3, 24, 1,
  9, 1, 1, 2, 7, 3, 1, 4, 6, 1, 1, 1, 8, 6, 10, 2, 3, 12, 58, 4, 29, 37, 2, 1, 1, 1, 5, 1, 24,
  1, 1, 1, 23, 2, 5, 1, 1, 1, 7, 1, 10, 2, 4, 32, 72, 1, 36, 4, 39, 1, 36, 1, 15, 1, 13, 37,
  198, 1, 1, 5, 1, 2, 377, 1, 4, 2, 7, 1, 1, 1, 4, 2, 41, 1, 4, 2, 33, 1, 4, 2, 7, 1, 1, 1, 4,
  2, 15, 1, 57, 1, 4, 2, 67, 2, 32, 3, 26, 6, 86, 2, 6, 2, 669, 3, 89, 7, 22, 9, 24, 9, 20, 12,
  13, 1, 3, 1, 2, 12, 94, 2, 10, 6, 10, 6, 26, 6, 89, 7, 43, 5, 70, 10, 31, 1, 12, 4, 12, 4, 1,
  3, 42, 2, 5, 11, 44, 4, 26, 6, 11, 3, 62, 2, 65, 1, 29, 2, 11, 6, 10, 6, 14, 2, 31, 49, 77, 3,
  47, 1, 116, 8, 60, 3, 15, 3, 60, 7, 43, 2, 11, 8, 43, 5, 534, 2, 6, 2, 38, 2, 6, 2, 8, 1, 1,
  1, 1, 1, 1, 1, 31, 2, 53, 1, 15, 1, 14, 2, 6, 1, 19, 2, 3, 1, 9, 1, 101, 1, 12, 2, 27, 1, 13,
  3, 33, 15, 33, 15, 140, 4, 663, 25, 11, 21, 1812, 2, 32, 1, 349, 5, 45, 1, 1, 5, 1, 2, 56, 7,
  2, 14, 24, 9, 7, 1, 7, 1, 7, 1, 7, 1, 7, 1, 7, 1, 7, 1, 7, 1, 126, 34, 26, 1, 89, 12, 214, 26,
  12, 4, 64, 1, 86, 2, 103, 5, 43, 1, 94, 1, 84, 12, 47, 1, 29293, 3, 55, 9, 348, 20, 184, 8,
  203, 5, 2, 1, 1, 1, 5, 24, 59, 3, 10, 6, 56, 8, 70, 8, 12, 6, 116, 11, 30, 3, 78, 1, 11, 4,
  33, 1, 55, 9, 14, 2, 10, 2, 103, 24, 28, 10, 6, 2, 6, 2, 6, 9, 7, 1, 7, 1, 60, 4, 126, 2, 10,
  6, 11172, 12, 23, 4, 49, 4, 8814, 2, 106, 38, 7, 12, 5, 5, 26, 1, 5, 1, 1, 1, 2, 1, 2, 1, 125,
  16, 445, 2, 54, 7, 1, 32, 42, 6, 51, 1, 19, 1, 4, 4, 5, 1, 135, 2, 1, 1, 190, 3, 6, 2, 6, 2,
  6, 2, 3, 3, 7, 1, 7, 10, 5, 2, 12, 1, 26, 1, 19, 1, 2, 1, 15, 2, 14, 34, 123, 5, 3, 4, 45, 3,
  88, 1, 13, 3, 1, 47, 46, 130, 29, 3, 49, 15, 28, 4, 36, 9, 30, 5, 43, 5, 30, 1, 37, 4, 14, 42,
  158, 2, 10, 6, 36, 4, 36, 4, 40, 8, 52, 11, 12, 1, 15, 1, 7, 1, 2, 1, 11, 1, 15, 1, 7, 1, 2,
  67, 311, 9, 22, 10, 8, 24, 6, 1, 42, 1, 9, 69, 6, 2, 1, 1, 44, 1, 2, 3, 1, 2, 23, 1, 72, 8, 9,
  48, 19, 1, 2, 5, 33, 3, 27, 5, 1, 64, 56, 4, 20, 2, 50, 1, 2, 5, 8, 1, 3, 1, 29, 2, 3, 4, 10,
  7, 9, 7, 64, 32, 39, 4, 12, 9, 54, 3, 29, 2, 27, 5, 26, 7, 4, 12, 7, 80, 73, 55, 51, 13, 51,
  7, 46, 8, 10, 294, 31, 1, 42, 1, 3, 2, 2, 75, 43, 8, 42, 22, 26, 38, 28, 20, 23, 9, 78, 4, 36,
  9, 68, 10, 1, 2, 25, 7, 10, 6, 53, 1, 18, 8, 39, 9, 96, 1, 20, 11, 18, 1, 47, 62, 7, 1, 1, 1,
  4, 1, 15, 1, 11, 6, 59, 5, 10, 6, 4, 1, 8, 2, 2, 2, 22, 1, 7, 1, 2, 1, 5, 1, 10, 2, 2, 2, 3,
  2, 1, 6, 1, 5, 7, 2, 7, 3, 5, 139, 92, 1, 5, 30, 72, 8, 10, 166, 54, 2, 38, 34, 69, 11, 10, 6,
  13, 19, 58, 6, 10, 54, 27, 2, 15, 4, 23, 185, 60, 100, 83, 12, 8, 2, 1, 2, 8, 1, 2, 1, 30, 1,
  2, 2, 12, 9, 10, 70, 8, 2, 46, 2, 11, 27, 72, 8, 83, 13, 73, 7, 10, 246, 9, 1, 45, 1, 14, 10,
  29, 3, 32, 2, 22, 1, 14, 73, 7, 1, 2, 1, 44, 3, 1, 1, 2, 1, 9, 8, 10, 6, 6, 1, 2, 1, 37, 1, 2,
  1, 6, 7, 10, 310, 25, 7, 17, 1, 41, 3, 28, 86, 1, 15, 50, 13, 923, 102, 111, 1, 5, 11, 196,
  2636, 99, 13, 1110, 4010, 583, 8633, 569, 7, 31, 1, 10, 4, 81, 1, 10, 6, 30, 2, 6, 10, 70, 10,
  10, 1, 7, 1, 21, 5, 19, 688, 91, 101, 75, 4, 57, 7, 17, 64, 5, 11, 2, 14, 6136, 8, 1238, 42,
  9, 8935, 4, 1, 7, 1, 2, 1, 291, 15, 1, 29, 3, 2, 1, 14, 4, 8, 396, 2308, 107, 5, 13, 3, 9, 7,
  10, 2, 8, 4700, 46, 2, 23, 9, 116, 60, 246, 10, 39, 2, 194, 21, 70, 122, 20, 12, 20, 12, 87,
  9, 25, 135, 85, 1, 71, 1, 2, 2, 1, 2, 2, 2, 4, 1, 12, 1, 1, 1, 7, 1, 65, 1, 4, 2, 8, 1, 7, 1,
  28, 1, 4, 1, 5, 1, 1, 3, 7, 1, 340, 2, 292, 2, 702, 15, 5, 1, 15, 1104, 31, 6, 6, 213, 7, 1,
  17, 2, 7, 1, 2, 1, 5, 5, 62, 33, 1, 112, 45, 3, 14, 2, 10, 4, 2, 320, 31, 17, 58, 5, 1, 464,
  42, 742, 7, 1, 4, 1, 2, 1, 15, 1, 197, 2, 16, 41, 76, 4, 10, 4, 2, 785, 68, 76, 61, 194, 4, 1,
  27, 1, 2, 1, 1, 2, 1, 1, 10, 1, 4, 1, 1, 1, 1, 6, 1, 4, 1, 1, 1, 1, 1, 1, 3, 1, 2, 1, 1, 2, 1,
  1, 1, 1, 1, 1, 1, 1, 1, 1, 2, 1, 1, 2, 4, 1, 7, 1, 4, 1, 4, 1, 1, 1, 10, 1, 17, 5, 3, 1, 5, 1,
  17, 52, 2, 270, 44, 4, 100, 12, 15, 2, 15, 1, 15, 1, 37, 10, 174, 56, 29, 13, 44, 4, 9, 7, 2,
  14, 6, 154, 984, 4, 17, 3, 13, 3, 119, 4, 95, 6, 12, 4, 1, 15, 12, 4, 56, 8, 10, 6, 40, 8, 30,
  2, 2, 78, 340, 12, 14, 2, 13, 3, 9, 7, 46, 1, 7, 8, 14, 4, 9, 7, 9, 7, 147, 1, 55, 37, 10,
  1030, 42720, 32, 4154, 6, 222, 2, 5762, 14, 7473, 3103, 542, 1506, 4939, 5, 4192, 711761, 1,
  30, 96, 128, 240, 65040, 65534, 2, 65534, 2]

end Text

end TaskPlan
