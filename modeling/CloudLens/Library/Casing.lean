import CloudLens.Library.Text

/-! Upper and lower case of words as Unicode 14 has them. A letter may become several,
and a capital sigma is lowered to the final one at the end of a word. Letters outside
ASCII are found in tables of runs. -/
namespace CloudLens.Library.Text

/-- The letters `first`, `first + step`, … , `last`, each as far from its other case as
`first` is from `image`. -/
structure CaseRun where
  first : ℕ
  last : ℕ
  step : ℕ
  image : ℕ

/-- The letter back from its other case. -/
def CaseRun.back (run : CaseRun) : CaseRun := ⟨run.image,run.image + (run.last - run.first),run.step,run.first⟩

def CaseRun.alone (letter : ℕ × ℕ) : CaseRun := ⟨letter.1,letter.1,2,letter.2⟩

/-- The letters of a run, each with its other case. -/
def CaseRun.letters (run : CaseRun) : List (ℕ × ℕ) :=
  ((List.range (run.last + 1 - run.first)).filter (fun k => k % run.step = 0)).map fun k => (run.first + k, run.image + k)

section Tables

/-- Small letters with the one capital that is lowered to them. -/
def pairedLetters : List (ℕ × ℕ) :=
  [(255, 376), (384, 579), (392, 391), (396, 395), (402, 401), (405, 502), (409, 408), (410, 573), (414, 544),
   (424, 423), (429, 428), (432, 431), (441, 440), (445, 444), (447, 503), (454, 452), (457, 455), (460, 458),
   (477, 398), (499, 497), (501, 500), (572, 571), (578, 577), (592, 11375), (593, 11373), (594, 11376), (595, 385),
   (596, 390), (601, 399), (603, 400), (604, 42923), (608, 403), (609, 42924), (611, 404), (613, 42893),
   (614, 42922), (616, 407), (617, 406), (618, 42926), (619, 11362), (620, 42925), (623, 412), (625, 11374),
   (626, 413), (629, 415), (637, 11364), (640, 422), (642, 42949), (643, 425), (647, 42929), (648, 430), (649, 580),
   (652, 581), (658, 439), (669, 42930), (670, 42928), (887, 886), (940, 902), (972, 908), (983, 975), (1010, 1017),
   (1011, 895), (1016, 1015), (1019, 1018), (1231, 1216), (7545, 42877), (7549, 11363), (7566, 42950), (8165, 8172),
   (8526, 8498), (8580, 8579), (11361, 11360), (11365, 570), (11366, 574), (11379, 11378), (11382, 11381),
   (11507, 11506), (11559, 4295), (11565, 4301), (42892, 42891), (42900, 42948), (42961, 42960), (42998, 42997),
   (43859, 42931)]

def pairedRuns : List CaseRun :=
  [⟨224,246,1,192⟩, ⟨248,254,1,216⟩, ⟨257,303,2,256⟩, ⟨307,311,2,306⟩, ⟨314,328,2,313⟩,
   ⟨331,375,2,330⟩, ⟨378,382,2,377⟩, ⟨387,389,2,386⟩, ⟨417,421,2,416⟩, ⟨436,438,2,435⟩,
   ⟨462,476,2,461⟩, ⟨479,495,2,478⟩, ⟨505,543,2,504⟩, ⟨547,563,2,546⟩, ⟨575,576,1,11390⟩,
   ⟨583,591,2,582⟩, ⟨598,599,1,393⟩, ⟨650,651,1,433⟩, ⟨881,883,2,880⟩, ⟨891,893,1,1021⟩,
   ⟨941,943,1,904⟩, ⟨945,961,1,913⟩, ⟨963,971,1,931⟩, ⟨973,974,1,910⟩, ⟨985,1007,2,984⟩,
   ⟨1072,1103,1,1040⟩, ⟨1104,1119,1,1024⟩, ⟨1121,1153,2,1120⟩, ⟨1163,1215,2,1162⟩,
   ⟨1218,1230,2,1217⟩, ⟨1233,1327,2,1232⟩, ⟨1377,1414,1,1329⟩, ⟨4304,4346,1,7312⟩,
   ⟨4349,4351,1,7357⟩, ⟨5112,5117,1,5104⟩, ⟨7681,7829,2,7680⟩, ⟨7841,7935,2,7840⟩,
   ⟨7936,7943,1,7944⟩, ⟨7952,7957,1,7960⟩, ⟨7968,7975,1,7976⟩, ⟨7984,7991,1,7992⟩,
   ⟨8000,8005,1,8008⟩, ⟨8017,8023,2,8025⟩, ⟨8032,8039,1,8040⟩, ⟨8048,8049,1,8122⟩,
   ⟨8050,8053,1,8136⟩, ⟨8054,8055,1,8154⟩, ⟨8056,8057,1,8184⟩, ⟨8058,8059,1,8170⟩,
   ⟨8060,8061,1,8186⟩, ⟨8112,8113,1,8120⟩, ⟨8144,8145,1,8152⟩, ⟨8160,8161,1,8168⟩,
   ⟨8560,8575,1,8544⟩, ⟨9424,9449,1,9398⟩, ⟨11312,11359,1,11264⟩, ⟨11368,11372,2,11367⟩,
   ⟨11393,11491,2,11392⟩, ⟨11500,11502,2,11499⟩, ⟨11520,11557,1,4256⟩, ⟨42561,42605,2,42560⟩,
   ⟨42625,42651,2,42624⟩, ⟨42787,42799,2,42786⟩, ⟨42803,42863,2,42802⟩, ⟨42874,42876,2,42873⟩,
   ⟨42879,42887,2,42878⟩, ⟨42897,42899,2,42896⟩, ⟨42903,42921,2,42902⟩, ⟨42933,42947,2,42932⟩,
   ⟨42952,42954,2,42951⟩, ⟨42967,42969,2,42966⟩, ⟨43888,43967,1,5024⟩, ⟨65345,65370,1,65313⟩,
   ⟨66600,66639,1,66560⟩, ⟨66776,66811,1,66736⟩, ⟨66967,66977,1,66928⟩, ⟨66979,66993,1,66940⟩,
   ⟨66995,67001,1,66956⟩, ⟨67003,67004,1,66964⟩, ⟨68800,68850,1,68736⟩, ⟨71872,71903,1,71840⟩,
   ⟨93792,93823,1,93760⟩, ⟨125218,125251,1,125184⟩] ++
    pairedLetters.map CaseRun.alone

def upperLetters : List (ℕ × ℕ) :=
  [(181, 924), (305, 73), (383, 83), (453, 452), (456, 455), (459, 458), (498, 497), (837, 921), (962, 931),
   (976, 914), (977, 920), (981, 934), (982, 928), (1008, 922), (1009, 929), (1013, 917), (7296, 1042),
   (7297, 1044), (7298, 1054), (7299, 1057), (7300, 1058), (7301, 1058), (7302, 1066), (7303, 1122), (7304, 42570),
   (7835, 7776), (8126, 921)]

def upperRuns : List CaseRun := pairedRuns ++ upperLetters.map CaseRun.alone

/-- Greek letters with an iota, and the capital written before it in upper case. -/
def iotaRuns : List CaseRun :=
  [⟨8064,8071,1,7944⟩, ⟨8072,8079,1,7944⟩, ⟨8080,8087,1,7976⟩, ⟨8088,8095,1,7976⟩,
   ⟨8096,8103,1,8040⟩, ⟨8104,8111,1,8040⟩]

def upperWords : List (ℕ × List ℕ) :=
  [(223, [83, 83]), (329, [700, 78]), (496, [74, 780]), (912, [921, 776, 769]), (944, [933, 776, 769]),
   (1415, [1333, 1362]), (7830, [72, 817]), (7831, [84, 776]), (7832, [87, 778]), (7833, [89, 778]),
   (7834, [65, 702]), (8016, [933, 787]), (8018, [933, 787, 768]), (8020, [933, 787, 769]), (8022, [933, 787, 834]),
   (8114, [8122, 921]), (8115, [913, 921]), (8116, [902, 921]), (8118, [913, 834]), (8119, [913, 834, 921]),
   (8124, [913, 921]), (8130, [8138, 921]), (8131, [919, 921]), (8132, [905, 921]), (8134, [919, 834]),
   (8135, [919, 834, 921]), (8140, [919, 921]), (8146, [921, 776, 768]), (8147, [921, 776, 769]),
   (8150, [921, 834]), (8151, [921, 776, 834]), (8162, [933, 776, 768]), (8163, [933, 776, 769]),
   (8164, [929, 787]), (8166, [933, 834]), (8167, [933, 776, 834]), (8178, [8186, 921]), (8179, [937, 921]),
   (8180, [911, 921]), (8182, [937, 834]), (8183, [937, 834, 921]), (8188, [937, 921]), (64256, [70, 70]),
   (64257, [70, 73]), (64258, [70, 76]), (64259, [70, 70, 73]), (64260, [70, 70, 76]), (64261, [83, 84]),
   (64262, [83, 84]), (64275, [1348, 1350]), (64276, [1348, 1333]), (64277, [1348, 1339]), (64278, [1358, 1350]),
   (64279, [1348, 1341])] ++
    (iotaRuns.flatMap CaseRun.letters).map fun letter => (letter.1, [letter.2, 921])

def lowerLetters : List (ℕ × ℕ) :=
  [(453, 454), (456, 457), (459, 460), (498, 499), (1012, 952), (7838, 223), (8124, 8115), (8140, 8131),
   (8188, 8179), (8486, 969), (8490, 107), (8491, 229)]

def lowerRuns : List CaseRun :=
  [⟨8072,8079,1,8064⟩, ⟨8088,8095,1,8080⟩, ⟨8104,8111,1,8096⟩] ++
    pairedRuns.map CaseRun.back ++ lowerLetters.map CaseRun.alone

/-- The letters whose title case is not their upper case, the Georgian ones apart. -/
def titleWords : List (ℕ × List ℕ) :=
  [(223, [83, 115]), (452, [453]), (453, [453]), (454, [453]), (455, [456]), (456, [456]), (457, [456]),
   (458, [459]), (459, [459]), (460, [459]), (497, [498]), (498, [498]), (499, [498]), (1415, [1333, 1410]),
   (8114, [8122, 837]), (8115, [8124]), (8116, [902, 837]), (8119, [913, 834, 837]), (8124, [8124]),
   (8130, [8138, 837]), (8131, [8140]), (8132, [905, 837]), (8135, [919, 834, 837]), (8140, [8140]),
   (8178, [8186, 837]), (8179, [8188]), (8180, [911, 837]), (8183, [937, 834, 837]), (8188, [8188]),
   (64256, [70, 102]), (64257, [70, 105]), (64258, [70, 108]), (64259, [70, 102, 105]), (64260, [70, 102, 108]),
   (64261, [83, 116]), (64262, [83, 116]), (64275, [1348, 1398]), (64276, [1348, 1381]), (64277, [1348, 1387]),
   (64278, [1358, 1398]), (64279, [1348, 1389])] ++
    ([⟨8064,8071,1,8072⟩, ⟨8072,8079,1,8072⟩, ⟨8080,8087,1,8088⟩,
      ⟨8088,8095,1,8088⟩, ⟨8096,8103,1,8104⟩, ⟨8104,8111,1,8104⟩].flatMap CaseRun.letters).map fun letter => (letter.1, [letter.2])

/-- First of each run of characters that have a case, and how many follow it. -/
def casedRuns : List (ℕ × ℕ) :=
  [(65, 25), (97, 25), (170, 0), (181, 0), (186, 0), (192, 22), (216, 30), (248, 194), (444, 3), (452, 207),
   (661, 35), (704, 1), (736, 4), (837, 0), (880, 3), (886, 1), (890, 3), (895, 0), (902, 0), (904, 2), (908, 0),
   (910, 19), (931, 82), (1015, 138), (1162, 165), (1329, 37), (1376, 40), (4256, 37), (4295, 0), (4301, 0),
   (4304, 42), (4349, 2), (5024, 85), (5112, 5), (7296, 8), (7312, 42), (7357, 2), (7424, 191), (7680, 277),
   (7960, 5), (7968, 37), (8008, 5), (8016, 7), (8025, 0), (8027, 0), (8029, 0), (8031, 30), (8064, 52), (8118, 6),
   (8126, 0), (8130, 2), (8134, 6), (8144, 3), (8150, 5), (8160, 12), (8178, 2), (8182, 6), (8305, 0), (8319, 0),
   (8336, 12), (8450, 0), (8455, 0), (8458, 9), (8469, 0), (8473, 4), (8484, 0), (8486, 0), (8488, 0), (8490, 3),
   (8495, 5), (8505, 0), (8508, 3), (8517, 4), (8526, 0), (8544, 31), (8579, 1), (9398, 51), (11264, 228),
   (11499, 3), (11506, 1), (11520, 37), (11559, 0), (11565, 0), (42560, 45), (42624, 29), (42786, 101), (42891, 3),
   (42896, 58), (42960, 1), (42963, 0), (42965, 4), (42997, 1), (43000, 2), (43824, 42), (43868, 12), (43888, 79),
   (64256, 6), (64275, 4), (65313, 25), (65345, 25), (66560, 79), (66736, 35), (66776, 35), (66928, 10),
   (66940, 14), (66956, 6), (66964, 1), (66967, 10), (66979, 14), (66995, 6), (67003, 1), (67456, 0), (67459, 2),
   (67463, 41), (67506, 8), (68736, 50), (68800, 50), (71840, 63), (93760, 63), (119808, 84), (119894, 70),
   (119966, 1), (119970, 0), (119973, 1), (119977, 3), (119982, 11), (119995, 0), (119997, 6), (120005, 64),
   (120071, 3), (120077, 7), (120086, 6), (120094, 27), (120123, 3), (120128, 4), (120134, 0), (120138, 6),
   (120146, 339), (120488, 24), (120514, 24), (120540, 30), (120572, 24), (120598, 30), (120630, 24), (120656, 30),
   (120688, 24), (120714, 30), (120746, 24), (120772, 7), (122624, 9), (122635, 19), (125184, 67), (127280, 25),
   (127312, 25), (127344, 25)]

/-- The same of the characters that are passed over where the end of a word is looked
for. -/
def ignorableRuns : List (ℕ × ℕ) :=
  [(39, 0), (46, 0), (58, 0), (94, 0), (96, 0), (168, 0), (173, 0), (175, 0), (180, 0), (183, 1), (688, 191),
   (884, 1), (890, 0), (900, 1), (903, 0), (1155, 6), (1369, 0), (1375, 0), (1425, 44), (1471, 0), (1473, 1),
   (1476, 1), (1479, 0), (1524, 0), (1536, 5), (1552, 10), (1564, 0), (1600, 0), (1611, 20), (1648, 0), (1750, 7),
   (1759, 9), (1770, 3), (1807, 0), (1809, 0), (1840, 26), (1958, 10), (2027, 10), (2042, 0), (2045, 0), (2070, 23),
   (2137, 2), (2184, 0), (2192, 1), (2200, 7), (2249, 57), (2362, 0), (2364, 0), (2369, 7), (2381, 0), (2385, 6),
   (2402, 1), (2417, 0), (2433, 0), (2492, 0), (2497, 3), (2509, 0), (2530, 1), (2558, 0), (2561, 1), (2620, 0),
   (2625, 1), (2631, 1), (2635, 2), (2641, 0), (2672, 1), (2677, 0), (2689, 1), (2748, 0), (2753, 4), (2759, 1),
   (2765, 0), (2786, 1), (2810, 5), (2817, 0), (2876, 0), (2879, 0), (2881, 3), (2893, 0), (2901, 1), (2914, 1),
   (2946, 0), (3008, 0), (3021, 0), (3072, 0), (3076, 0), (3132, 0), (3134, 2), (3142, 2), (3146, 3), (3157, 1),
   (3170, 1), (3201, 0), (3260, 0), (3263, 0), (3270, 0), (3276, 1), (3298, 1), (3328, 1), (3387, 1), (3393, 3),
   (3405, 0), (3426, 1), (3457, 0), (3530, 0), (3538, 2), (3542, 0), (3633, 0), (3636, 6), (3654, 8), (3761, 0),
   (3764, 8), (3782, 0), (3784, 5), (3864, 1), (3893, 0), (3895, 0), (3897, 0), (3953, 13), (3968, 4), (3974, 1),
   (3981, 10), (3993, 35), (4038, 0), (4141, 3), (4146, 5), (4153, 1), (4157, 1), (4184, 1), (4190, 2), (4209, 3),
   (4226, 0), (4229, 1), (4237, 0), (4253, 0), (4348, 0), (4957, 2), (5906, 2), (5938, 1), (5970, 1), (6002, 1),
   (6068, 1), (6071, 6), (6086, 0), (6089, 10), (6103, 0), (6109, 0), (6155, 4), (6211, 0), (6277, 1), (6313, 0),
   (6432, 2), (6439, 1), (6450, 0), (6457, 2), (6679, 1), (6683, 0), (6742, 0), (6744, 6), (6752, 0), (6754, 0),
   (6757, 7), (6771, 9), (6783, 0), (6823, 0), (6832, 30), (6912, 3), (6964, 0), (6966, 4), (6972, 0), (6978, 0),
   (7019, 8), (7040, 1), (7074, 3), (7080, 1), (7083, 2), (7142, 0), (7144, 1), (7149, 0), (7151, 2), (7212, 7),
   (7222, 1), (7288, 5), (7376, 2), (7380, 12), (7394, 6), (7405, 0), (7412, 0), (7416, 1), (7468, 62), (7544, 0),
   (7579, 100), (8125, 0), (8127, 2), (8141, 2), (8157, 2), (8173, 2), (8189, 1), (8203, 4), (8216, 1), (8228, 0),
   (8231, 0), (8234, 4), (8288, 4), (8294, 9), (8305, 0), (8319, 0), (8336, 12), (8400, 32), (11388, 1), (11503, 2),
   (11631, 0), (11647, 0), (11744, 31), (11823, 0), (12293, 0), (12330, 3), (12337, 4), (12347, 0), (12441, 5),
   (12540, 2), (40981, 0), (42232, 5), (42508, 0), (42607, 3), (42612, 9), (42623, 0), (42652, 3), (42736, 1),
   (42752, 33), (42864, 0), (42888, 2), (42994, 2), (43000, 1), (43010, 0), (43014, 0), (43019, 0), (43045, 1),
   (43052, 0), (43204, 1), (43232, 17), (43263, 0), (43302, 7), (43335, 10), (43392, 2), (43443, 0), (43446, 3),
   (43452, 1), (43471, 0), (43493, 1), (43561, 5), (43569, 1), (43573, 1), (43587, 0), (43596, 0), (43632, 0),
   (43644, 0), (43696, 0), (43698, 2), (43703, 1), (43710, 1), (43713, 0), (43741, 0), (43756, 1), (43763, 1),
   (43766, 0), (43867, 4), (43881, 2), (44005, 0), (44008, 0), (44013, 0), (64286, 0), (64434, 16), (65024, 15),
   (65043, 0), (65056, 15), (65106, 0), (65109, 0), (65279, 0), (65287, 0), (65294, 0), (65306, 0), (65342, 0),
   (65344, 0), (65392, 0), (65438, 1), (65507, 0), (65529, 2), (66045, 0), (66272, 0), (66422, 4), (67456, 5),
   (67463, 41), (67506, 8), (68097, 2), (68101, 1), (68108, 3), (68152, 2), (68159, 0), (68325, 1), (68900, 3),
   (69291, 1), (69446, 10), (69506, 3), (69633, 0), (69688, 14), (69744, 0), (69747, 1), (69759, 2), (69811, 3),
   (69817, 1), (69821, 0), (69826, 0), (69837, 0), (69888, 2), (69927, 4), (69933, 7), (70003, 0), (70016, 1),
   (70070, 8), (70089, 3), (70095, 0), (70191, 2), (70196, 0), (70198, 1), (70206, 0), (70367, 0), (70371, 7),
   (70400, 1), (70459, 1), (70464, 0), (70502, 6), (70512, 4), (70712, 7), (70722, 2), (70726, 0), (70750, 0),
   (70835, 5), (70842, 0), (70847, 1), (70850, 1), (71090, 3), (71100, 1), (71103, 1), (71132, 1), (71219, 7),
   (71229, 0), (71231, 1), (71339, 0), (71341, 0), (71344, 5), (71351, 0), (71453, 2), (71458, 3), (71463, 4),
   (71727, 8), (71737, 1), (71995, 1), (71998, 0), (72003, 0), (72148, 3), (72154, 1), (72160, 0), (72193, 9),
   (72243, 5), (72251, 3), (72263, 0), (72273, 5), (72281, 2), (72330, 12), (72344, 1), (72752, 6), (72760, 5),
   (72767, 0), (72850, 21), (72874, 6), (72882, 1), (72885, 1), (73009, 5), (73018, 0), (73020, 1), (73023, 6),
   (73031, 0), (73104, 1), (73109, 0), (73111, 0), (73459, 1), (78896, 8), (92912, 4), (92976, 6), (92992, 3),
   (94031, 0), (94095, 16), (94176, 1), (94179, 1), (110576, 3), (110581, 6), (110589, 1), (113821, 1), (113824, 3),
   (118528, 45), (118576, 22), (119143, 2), (119155, 15), (119173, 6), (119210, 3), (119362, 2), (121344, 54),
   (121403, 49), (121461, 0), (121476, 0), (121499, 4), (121505, 14), (122880, 6), (122888, 16), (122907, 6),
   (122915, 1), (122918, 4), (123184, 13), (123566, 0), (123628, 3), (125136, 6), (125252, 7), (127995, 4),
   (917505, 0), (917536, 95), (917760, 239)]

end Tables

section Mapping

def CaseRun.covers (run : CaseRun) (n : ℕ) : Bool :=
  run.first ≤ n && n ≤ run.last && (n - run.first) % run.step = 0

def otherCase (runs : List CaseRun) (n : ℕ) : ℕ :=
  match runs.find? (fun run => run.covers n) with
  | some run => run.image + (n - run.first)
  | none => n

def within (runs : List (ℕ × ℕ)) (c : Char) : Bool := runs.any (fun run => run.1 ≤ c.toNat && c.toNat ≤ run.1 + run.2)

def cased (c : Char) : Bool := within casedRuns c

def caseIgnorable (c : Char) : Bool := within ignorableRuns c

def upperCode (n : ℕ) : List ℕ :=
  if n < 128 then [if 97 ≤ n ∧ n ≤ 122 then n - 32 else n]
  else (upperWords.lookup n).getD [otherCase upperRuns n]

def lowerCode (n : ℕ) : List ℕ :=
  if n < 128 then [if 65 ≤ n ∧ n ≤ 90 then n + 32 else n]
  else if n = 304 then [105, 775]
  else [otherCase lowerRuns n]

def titleCode (n : ℕ) : List ℕ :=
  if 4304 ≤ n ∧ n ≤ 4351 then [n] else (titleWords.lookup n).getD (upperCode n)

def upperChar (c : Char) : List Char := (upperCode c.toNat).map Char.ofNat

def lowerChar (c : Char) : List Char := (lowerCode c.toNat).map Char.ofNat

def titleChar (c : Char) : List Char := (titleCode c.toNat).map Char.ofNat

def startsCased (rest : List Char) : Bool := (rest.find? (fun c => !caseIgnorable c)).any cased

/-- `before` tells whether the last character before `c` that is not passed over has a case. -/
def loweredAt (before : Bool) (c : Char) (rest : List Char) : List Char :=
  if c = 'Σ' then [if before && !startsCased rest then 'ς' else 'σ'] else lowerChar c

def lowerFrom : Bool → List Char → List Char
  | _, [] => []
  | before, c :: rest => loweredAt before c rest ++ lowerFrom (if caseIgnorable c then before else cased c) rest

/-- `joined` tells whether the character before has a case. -/
def titleFrom : Bool → Bool → List Char → List Char
  | _, _, [] => []
  | joined, before, c :: rest =>
    (if joined then loweredAt before c rest else titleChar c) ++
      titleFrom (cased c) (if caseIgnorable c then before else cased c) rest

@[irreducible] def upper (word : String) : String := String.ofList (word.toList.flatMap upperChar)

@[irreducible] def lower (word : String) : String := String.ofList (lowerFrom false word.toList)

@[irreducible] def title (word : String) : String := String.ofList (titleFrom false false word.toList)

end Mapping

section Capitals

/-- The numbers of a list as the bits of one number. -/
def bits (codes : List ℕ) : ℕ := codes.foldr (fun n mask => mask ||| 2^n) 0

/-- The characters that upper case replaces. -/
def smallCodes : List ℕ :=
  List.range' 97 26 ++ upperWords.map Prod.fst ++ (upperRuns.flatMap CaseRun.letters).map Prod.fst

/-- The characters it writes for them. -/
def capitalCodes : List ℕ :=
  List.range' 65 26 ++ upperWords.flatMap Prod.snd ++ (upperRuns.flatMap CaseRun.letters).map Prod.snd

def blankCodes : List ℕ :=
  List.range' 9 5 ++ List.range' 28 5 ++ blankRuns.flatMap fun run => List.range' run.1 (run.2 + 1 - run.1)

variable {left right : List ℕ} {run : CaseRun} {n m : ℕ}

theorem testBit_bits (codes : List ℕ) : (bits codes).testBit n = true ↔ n ∈ codes := by
  induction codes with
  | nil => simp [bits]
  | cons m rest ih =>
    have split : bits (m :: rest) = bits rest ||| 2^m := rfl
    rw [split,Nat.testBit_or,Bool.or_eq_true,ih,Nat.testBit_two_pow,decide_eq_true_eq,List.mem_cons,eq_comm,or_comm]

theorem disjoint_of_bits (apart : bits left &&& bits right = 0) : left.Disjoint right := by
  intro n first second
  have both : (bits left &&& bits right).testBit n = true := by
    rw [Nat.testBit_and,(testBit_bits left).mpr first,(testBit_bits right).mpr second]
    rfl
  rw [apart,Nat.zero_testBit] at both
  cases both

private theorem small_capital : smallCodes.Disjoint capitalCodes := disjoint_of_bits (by decide +kernel)

private theorem blank_cased : blankCodes.Disjoint (smallCodes ++ capitalCodes) := disjoint_of_bits (by decide +kernel)

private theorem capitalCodes_valid : ∀ m ∈ capitalCodes, m.isValidChar := by
  decide +kernel

private theorem upperWords_nonempty : ∀ entry ∈ upperWords, entry.2 ≠ [] := by
  decide +kernel

theorem CaseRun.mem_letters (covered : run.covers n = true) : (n, run.image + (n - run.first)) ∈ run.letters := by
  simp only [CaseRun.covers,Bool.and_eq_true,decide_eq_true_eq] at covered
  obtain ⟨⟨least,most⟩,step⟩ := covered
  have offset : n - run.first ∈ (List.range (run.last + 1 - run.first)).filter (fun k => k % run.step = 0) := by
    rw [List.mem_filter,List.mem_range]
    exact ⟨by omega,decide_eq_true step⟩
  have letter := List.mem_map_of_mem (f := fun k => (run.first + k, run.image + k)) offset
  rwa [Nat.add_sub_cancel' least] at letter

theorem upperCode_kept (kept : n ∉ smallCodes) : upperCode n = [n] := by
  simp only [smallCodes,List.mem_append,not_or] at kept
  obtain ⟨⟨latin,unworded⟩,unmoved⟩ := kept
  have unlisted : upperWords.lookup n = none := by
    rw [List.lookup_eq_none_iff]
    intro entry listed
    rw [bne_iff_ne]
    rintro rfl
    exact unworded (List.mem_map_of_mem listed)
  have uncovered : upperRuns.find? (fun run => run.covers n) = none := by
    rw [List.find?_eq_none]
    intro run listed covered
    exact unmoved (List.mem_map_of_mem (List.mem_flatMap.mpr ⟨run,listed,CaseRun.mem_letters covered⟩))
  have plain : ¬ (97 ≤ n ∧ n ≤ 122) := by
    rintro ⟨least,most⟩
    exact latin (List.mem_range'_1.mpr ⟨least,by omega⟩)
  rw [upperCode,if_neg plain,unlisted,otherCase,uncovered]
  exact ite_self _

private theorem upperCode_cases (member : m ∈ upperCode n) : m = n ∧ upperCode n = [n] ∨ m ∈ capitalCodes := by
  simp only [capitalCodes,List.mem_append]
  by_cases ascii : n < 128
  · by_cases small : 97 ≤ n ∧ n ≤ 122
    · rw [upperCode,if_pos ascii,if_pos small,List.mem_singleton] at member
      exact Or.inr (Or.inl (Or.inl (List.mem_range'_1.mpr ⟨by omega,by omega⟩)))
    · have kept : upperCode n = [n] := by rw [upperCode,if_pos ascii,if_neg small]
      exact Or.inl ⟨List.mem_singleton.mp (kept ▸ member),kept⟩
  · have wide : upperCode n = (upperWords.lookup n).getD [otherCase upperRuns n] := by rw [upperCode,if_neg ascii]
    rw [wide] at member ⊢
    cases listed : upperWords.lookup n with
    | some word =>
      rw [listed] at member
      obtain ⟨_,_,split,_⟩ := List.lookup_eq_some_iff.mp listed
      exact Or.inr (Or.inl (Or.inr (List.mem_flatMap.mpr ⟨(n, word),split ▸ by simp,member⟩)))
    | none =>
      rw [listed,Option.getD_none,List.mem_singleton] at member
      rw [Option.getD_none]
      unfold otherCase at member ⊢
      cases found : upperRuns.find? (fun run => run.covers n) with
      | none =>
        rw [found] at member
        exact Or.inl ⟨member,rfl⟩
      | some run =>
        rw [found] at member
        have covered := List.find?_some found
        have letter := CaseRun.mem_letters covered
        refine Or.inr (Or.inr ?_)
        rw [member]
        exact List.mem_map_of_mem (List.mem_flatMap.mpr ⟨run,List.mem_of_find?_eq_some found,letter⟩)

theorem upperCode_settled (member : m ∈ upperCode n) : upperCode m = [m] := by
  rcases upperCode_cases member with ⟨rfl,kept⟩ | capital
  · exact kept
  · exact upperCode_kept (fun small => small_capital small capital)

theorem upperCode_valid (valid : n.isValidChar) (member : m ∈ upperCode n) : m.isValidChar := by
  rcases upperCode_cases member with ⟨rfl,_⟩ | capital
  · exact valid
  · exact capitalCodes_valid m capital

theorem mem_blankCodes (blank : blankCode n = true) : n ∈ blankCodes := by
  simp only [blankCode,Bool.or_eq_true,Bool.and_eq_true,decide_eq_true_eq,List.any_eq_true] at blank
  simp only [blankCodes,List.mem_append,List.mem_flatMap,List.mem_range'_1]
  rcases blank with (tab | space) | ⟨_,run,member,after,before⟩
  · exact Or.inl (Or.inl (by omega))
  · exact Or.inl (Or.inr (by omega))
  · exact Or.inr ⟨run,member,after,by omega⟩

theorem upperCode_inked (inked : blankCode n = false) (member : m ∈ upperCode n) : blankCode m = false := by
  rcases upperCode_cases member with ⟨rfl,_⟩ | capital
  · exact inked
  · rw [← Bool.not_eq_true]
    intro blank
    exact blank_cased (mem_blankCodes blank) (List.mem_append_right _ capital)

theorem upperCode_blank (blank : blankCode n = true) : upperCode n = [n] :=
  upperCode_kept (fun small => blank_cased (mem_blankCodes blank) (List.mem_append_left _ small))

theorem upperCode_ne_nil : upperCode n ≠ [] := by
  unfold upperCode
  split_ifs
  · exact List.cons_ne_nil _ _
  · exact List.cons_ne_nil _ _
  · cases listed : upperWords.lookup n with
    | some word =>
      obtain ⟨_,_,split,_⟩ := List.lookup_eq_some_iff.mp listed
      exact upperWords_nonempty (n, word) (split ▸ by simp)
    | none => exact List.cons_ne_nil _ _

variable {c d : Char}

private theorem toNat_of_mem_upperChar (member : d ∈ upperChar c) : d.toNat ∈ upperCode c.toNat := by
  obtain ⟨m,image,rfl⟩ := List.mem_map.mp member
  have valid : m.isValidChar := upperCode_valid c.valid image
  have code : (Char.ofNat m).toNat = m := by
    rw [Char.ofNat,dif_pos valid]
    rfl
  rwa [code]

private theorem upperChar_eq_self (kept : upperCode c.toNat = [c.toNat]) : upperChar c = [c] := by
  rw [upperChar,kept,List.map_singleton,Char.ofNat_toNat]

theorem upper_upper (word : String) : upper (upper word) = upper word := by
  unfold upper
  rw [String.toList_ofList,List.flatMap_assoc]
  refine congrArg String.ofList (List.flatMap_congr fun c _ => ?_)
  calc (upperChar c).flatMap upperChar
      = (upperChar c).flatMap (fun d => [d]) :=
        List.flatMap_congr fun d member => upperChar_eq_self (upperCode_settled (toNat_of_mem_upperChar member))
    _ = upperChar c := List.flatMap_singleton' _

end Capitals

section Blanks

variable {blank : Char → Bool} {image : Char → List Char}

/-- Leading blanks are dropped before or after the letters are replaced. -/
theorem dropWhile_flatMap (kept : ∀ c, blank c = true → image c = [c])
    (inked : ∀ c, blank c = false → image c ≠ [] ∧ ∀ d ∈ image c, blank d = false) (word : List Char) :
    (word.flatMap image).dropWhile blank = (word.dropWhile blank).flatMap image := by
  induction word with
  | nil => rfl
  | cons c rest ih =>
    cases spaced : blank c with
    | true => simp [kept c spaced,spaced,ih]
    | false =>
      obtain ⟨nonempty,plain⟩ := inked c spaced
      obtain ⟨d,letters,split⟩ := List.exists_cons_of_ne_nil nonempty
      have first : blank d = false := plain d (by simp [split])
      simp [spaced,split,first]

theorem rdropWhile_flatMap (kept : ∀ c, blank c = true → image c = [c])
    (inked : ∀ c, blank c = false → image c ≠ [] ∧ ∀ d ∈ image c, blank d = false) (word : List Char) :
    (word.flatMap image).rdropWhile blank = (word.rdropWhile blank).flatMap image := by
  have backwards := @dropWhile_flatMap blank (List.reverse ∘ image)
    (fun c spaced => congrArg List.reverse (kept c spaced))
    (fun c plain => ⟨by simpa using (inked c plain).1,fun d member => (inked c plain).2 d (List.mem_reverse.mp member)⟩)
    word.reverse
  calc (word.flatMap image).rdropWhile blank
      = ((word.reverse.flatMap (List.reverse ∘ image)).dropWhile blank).reverse := by
        rw [List.rdropWhile,List.reverse_flatMap]
    _ = ((word.reverse.dropWhile blank).flatMap (List.reverse ∘ image)).reverse := congrArg List.reverse backwards
    _ = (word.rdropWhile blank).flatMap image := by
        rw [List.rdropWhile,List.flatMap_reverse]

private theorem upperChar_blank (c : Char) (spaced : isBlank c = true) : upperChar c = [c] :=
  upperChar_eq_self (upperCode_blank spaced)

private theorem upperChar_inked (c : Char) (plain : isBlank c = false) :
    upperChar c ≠ [] ∧ ∀ d ∈ upperChar c, isBlank d = false :=
  ⟨fun empty => upperCode_ne_nil (List.map_eq_nil_iff.mp empty),
    fun _ member => upperCode_inked plain (toNat_of_mem_upperChar member)⟩

theorem stripped_upper (word : String) : stripped (upper word) = upper (stripped word) := by
  unfold stripped upper strip
  rw [String.toList_ofList,String.toList_ofList,dropWhile_flatMap upperChar_blank upperChar_inked,
    rdropWhile_flatMap upperChar_blank upperChar_inked]

end Blanks

end CloudLens.Library.Text
