import TaskPlan.Text.Runs

/-!
# Marks, numbers and separators

The general categories of marks, numbers and separators, each as the runs of its
code points.
-/

namespace TaskPlan

namespace Text

def nonspacingMarkRuns : List Nat := [
  768, 112, 275, 5, 265, 45, 1, 1, 1, 2, 1, 2, 1, 1, 72, 11, 48, 21, 16, 1, 101, 7, 2, 6, 2, 2,
  1, 4, 35, 1, 30, 27, 91, 11, 58, 9, 9, 1, 24, 4, 1, 9, 1, 3, 1, 5, 43, 3, 60, 8, 42, 24, 1,
  32, 55, 1, 1, 1, 4, 8, 4, 1, 3, 7, 10, 2, 29, 1, 58, 1, 4, 4, 8, 1, 20, 2, 26, 1, 2, 2, 57, 1,
  4, 2, 4, 2, 2, 3, 3, 1, 30, 2, 3, 1, 11, 2, 57, 1, 4, 5, 1, 2, 4, 1, 20, 2, 22, 6, 1, 1, 58,
  1, 2, 1, 1, 4, 8, 1, 7, 2, 11, 2, 30, 1, 61, 1, 12, 1, 50, 1, 3, 1, 55, 1, 1, 3, 5, 3, 1, 4,
  7, 2, 11, 2, 29, 1, 58, 1, 2, 1, 6, 1, 5, 2, 20, 2, 28, 2, 57, 2, 4, 4, 8, 1, 20, 2, 29, 1,
  72, 1, 7, 3, 1, 1, 90, 1, 2, 7, 12, 8, 98, 1, 2, 9, 11, 7, 73, 2, 27, 1, 1, 1, 1, 1, 55, 14,
  1, 5, 1, 2, 5, 11, 1, 36, 9, 1, 102, 4, 1, 6, 1, 2, 2, 2, 25, 2, 4, 3, 16, 4, 13, 1, 2, 2, 6,
  1, 15, 1, 703, 3, 946, 3, 29, 2, 30, 2, 30, 2, 64, 2, 1, 7, 8, 1, 2, 11, 9, 1, 45, 3, 1, 1,
  117, 2, 34, 1, 118, 3, 4, 2, 9, 1, 6, 3, 219, 2, 2, 1, 58, 1, 1, 7, 1, 1, 1, 1, 2, 8, 6, 10,
  2, 1, 48, 14, 1, 16, 49, 4, 48, 1, 1, 5, 1, 1, 5, 1, 40, 9, 12, 2, 32, 4, 2, 2, 1, 3, 56, 1,
  1, 2, 3, 1, 1, 3, 58, 8, 2, 2, 152, 3, 1, 13, 1, 7, 4, 1, 6, 1, 3, 2, 198, 64, 720, 13, 4, 1,
  3, 12, 3070, 3, 141, 1, 96, 32, 554, 4, 107, 2, 30164, 1, 4, 10, 32, 2, 80, 2, 272, 1, 3, 1,
  4, 1, 25, 2, 5, 1, 151, 2, 26, 18, 13, 1, 38, 8, 25, 11, 46, 3, 48, 1, 2, 4, 2, 2, 39, 1, 67,
  6, 2, 2, 2, 2, 12, 1, 8, 1, 47, 1, 51, 1, 1, 3, 2, 2, 5, 2, 1, 1, 42, 2, 8, 1, 238, 1, 2, 1,
  4, 1, 20272, 1, 737, 16, 16, 16, 973, 1, 226, 1, 149, 5, 1670, 3, 1, 2, 5, 4, 40, 3, 4, 1,
  165, 2, 573, 4, 387, 2, 80, 3, 70, 11, 49, 4, 123, 1, 54, 15, 41, 1, 2, 2, 10, 3, 49, 4, 2, 2,
  7, 1, 61, 3, 36, 5, 1, 8, 62, 1, 12, 2, 52, 9, 10, 4, 2, 1, 95, 3, 2, 1, 1, 2, 6, 1, 2, 1,
  157, 1, 3, 8, 21, 2, 57, 2, 3, 1, 37, 7, 3, 5, 195, 8, 2, 3, 1, 1, 23, 1, 84, 6, 1, 1, 4, 2,
  1, 2, 238, 4, 6, 2, 1, 2, 27, 2, 85, 8, 2, 1, 1, 2, 106, 1, 1, 1, 2, 6, 1, 1, 101, 3, 2, 4, 1,
  5, 259, 9, 1, 2, 256, 2, 1, 1, 4, 1, 144, 4, 2, 2, 4, 1, 32, 10, 40, 6, 2, 4, 8, 1, 9, 6, 2,
  3, 46, 13, 1, 2, 406, 7, 1, 6, 1, 1, 82, 22, 2, 7, 1, 2, 1, 2, 122, 6, 3, 1, 1, 2, 1, 7, 1, 1,
  72, 2, 3, 1, 1, 1, 347, 2, 11, 2, 52, 5, 5, 1, 1, 1, 5373, 1, 6, 15, 13978, 5, 59, 7, 1048, 1,
  63, 4, 81, 1, 19640, 2, 4705, 46, 2, 23, 544, 3, 17, 8, 2, 7, 30, 4, 148, 3, 1979, 55, 4, 50,
  8, 1, 14, 1, 22, 5, 1, 15, 1360, 7, 1, 17, 2, 7, 1, 2, 1, 5, 100, 1, 160, 7, 375, 1, 61, 4,
  508, 4, 992, 7, 109, 7, 792501, 240]

def spacingMarkRuns : List Nat := [
  2307, 1, 55, 1, 2, 3, 8, 4, 1, 2, 50, 2, 58, 3, 6, 2, 2, 2, 10, 1, 43, 1, 58, 3, 66, 1, 58, 3,
  8, 1, 1, 2, 53, 2, 58, 1, 1, 1, 6, 2, 2, 2, 10, 1, 102, 2, 1, 2, 3, 3, 1, 3, 10, 1, 41, 3, 61,
  4, 61, 2, 58, 1, 1, 5, 2, 2, 1, 2, 9, 2, 28, 1, 14, 2, 58, 3, 5, 3, 1, 3, 10, 1, 42, 2, 75, 3,
  6, 8, 18, 2, 330, 2, 63, 1, 171, 2, 4, 1, 6, 1, 2, 2, 25, 2, 10, 3, 2, 7, 21, 2, 2, 6, 2, 1,
  10, 3, 1656, 1, 30, 1, 129, 1, 7, 8, 1, 2, 346, 4, 2, 3, 4, 2, 1, 6, 224, 2, 58, 1, 1, 1, 9,
  1, 1, 2, 8, 6, 145, 1, 48, 1, 5, 1, 1, 5, 1, 2, 61, 1, 30, 1, 4, 2, 2, 1, 60, 1, 2, 3, 1, 1,
  3, 2, 48, 8, 8, 2, 171, 1, 21, 1, 4918, 2, 30707, 2, 2, 1, 88, 2, 50, 16, 142, 2, 47, 1, 48,
  2, 4, 2, 2, 3, 110, 2, 2, 2, 24, 1, 45, 1, 1, 1, 109, 1, 2, 2, 5, 1, 237, 2, 1, 2, 1, 2, 1, 1,
  25619, 1, 1, 1, 127, 1, 45, 3, 4, 2, 115, 1, 24, 2, 59, 1, 48, 3, 9, 2, 13, 1, 93, 3, 3, 2, 1,
  1, 170, 3, 31, 2, 58, 2, 1, 4, 2, 2, 2, 3, 9, 1, 10, 2, 209, 3, 8, 2, 3, 1, 106, 3, 6, 1, 1,
  4, 2, 1, 237, 3, 6, 4, 2, 1, 113, 3, 8, 2, 1, 1, 109, 1, 1, 2, 6, 1, 105, 2, 4, 1, 261, 3, 9,
  1, 247, 6, 1, 2, 4, 1, 2, 1, 1, 1, 142, 3, 8, 4, 4, 1, 84, 1, 29, 2, 62, 1, 407, 1, 14, 1,
  106, 1, 7, 1, 2, 1, 213, 5, 4, 2, 1, 1, 350, 2, 12, 1, 48, 2, 8, 2, 1, 1, 20495, 55, 104, 2,
  24947, 2, 6, 6]

def enclosingMarkRuns : List Nat := [
  1160, 2, 5684, 1, 1566, 4, 1, 3, 34187, 3]

def decimalNumberRuns : List Nat := [
  48, 10, 1574, 10, 134, 10, 198, 10, 412, 10, 118, 10, 118, 10, 118, 10, 118, 10, 118, 10, 118,
  10, 118, 10, 118, 10, 118, 10, 96, 10, 118, 10, 70, 10, 278, 10, 70, 10, 1862, 10, 38, 10,
  300, 10, 128, 10, 166, 10, 6, 10, 182, 10, 86, 10, 134, 10, 6, 10, 35270, 10, 678, 10, 38, 10,
  198, 10, 22, 10, 86, 10, 406, 10, 21270, 10, 1414, 10, 2182, 10, 812, 10, 128, 10, 60, 10,
  144, 10, 278, 10, 342, 10, 118, 10, 374, 10, 102, 10, 102, 10, 422, 10, 102, 10, 758, 10, 246,
  10, 70, 10, 422, 10, 19206, 10, 86, 10, 134, 10, 27764, 50, 2368, 10, 422, 10, 502, 10, 1110,
  10, 4758, 10]

def letterNumberRuns : List Nat := [
  5870, 3, 2671, 35, 2, 4, 3710, 1, 25, 9, 14, 3, 30379, 10, 23120, 53, 460, 1, 8, 1, 134, 5,
  8234, 111]

def otherNumberRuns : List Nat := [
  178, 2, 5, 1, 2, 3, 2357, 6, 376, 6, 120, 3, 133, 7, 217, 7, 17, 9, 433, 10, 1077, 20, 1139,
  10, 480, 1, 1685, 1, 3, 6, 6, 10, 198, 16, 41, 1, 726, 60, 78, 22, 630, 30, 1385, 1, 1172, 4,
  138, 10, 30, 8, 1, 15, 32, 10, 39, 15, 30064, 6, 22737, 45, 65, 4, 17, 2, 341, 27, 36, 4,
  1332, 8, 25, 7, 39, 9, 75, 5, 22, 6, 160, 2, 2, 16, 2, 46, 64, 9, 52, 2, 30, 3, 75, 5, 104, 8,
  24, 8, 41, 7, 330, 6, 352, 31, 158, 10, 42, 4, 112, 7, 134, 20, 379, 20, 1349, 2, 430, 9, 871,
  19, 851, 21, 19334, 7, 798, 23, 25641, 20, 12, 20, 108, 25, 5454, 9, 929, 59, 1, 3, 1, 4, 76,
  45, 1, 15, 962, 13]

def spaceSeparatorRuns : List Nat := [
  32, 1, 127, 1, 5599, 1, 2431, 11, 36, 1, 47, 1, 4000, 1]

def lineSeparatorRuns : List Nat := [
  8232, 1]

def paragraphSeparatorRuns : List Nat := [
  8233, 1]

end Text

end TaskPlan
