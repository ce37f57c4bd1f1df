import TreeQuery.Text.CodePoints

/-!
# Emoji

The properties of pictographs.
-/

namespace TreeQuery.Text.Property

/-- The characters that are emoji or part of them. -/
def emoji : CodePoints := { changes := [
  35, 36, 42, 43, 48, 58, 169, 170, 174, 175, 8252, 8253, 8265, 8266, 8482, 8483, 8505, 8506,
  8596, 8602, 8617, 8619, 8986, 8988, 9000, 9001, 9167, 9168, 9193, 9204, 9208, 9211, 9410,
  9411, 9642, 9644, 9654, 9655, 9664, 9665, 9723, 9727, 9728, 9733, 9742, 9743, 9745, 9746,
  9748, 9750, 9752, 9753, 9757, 9758, 9760, 9761, 9762, 9764, 9766, 9767, 9770, 9771, 9774,
  9776, 9784, 9787, 9792, 9793, 9794, 9795, 9800, 9812, 9823, 9825, 9827, 9828, 9829, 9831,
  9832, 9833, 9851, 9852, 9854, 9856, 9874, 9880, 9881, 9882, 9883, 9885, 9888, 9890, 9895,
  9896, 9898, 9900, 9904, 9906, 9917, 9919, 9924, 9926, 9928, 9929, 9934, 9936, 9937, 9938,
  9939, 9941, 9961, 9963, 9968, 9974, 9975, 9979, 9981, 9982, 9986, 9987, 9989, 9990, 9992,
  9998, 9999, 10000, 10002, 10003, 10004, 10005, 10006, 10007, 10013, 10014, 10017, 10018,
  10024, 10025, 10035, 10037, 10052, 10053, 10055, 10056, 10060, 10061, 10062, 10063, 10067,
  10070, 10071, 10072, 10083, 10085, 10133, 10136, 10145, 10146, 10160, 10161, 10175, 10176,
  10548, 10550, 11013, 11016, 11035, 11037, 11088, 11089, 11093, 11094, 12336, 12337, 12349,
  12350, 12951, 12952, 12953, 12954, 126980, 126981, 127183, 127184, 127344, 127346, 127358,
  127360, 127374, 127375, 127377, 127387, 127462, 127488, 127489, 127491, 127514, 127515,
  127535, 127536, 127538, 127547, 127568, 127570, 127744, 127778, 127780, 127892, 127894,
  127896, 127897, 127900, 127902, 127985, 127987, 127990, 127991, 128254, 128255, 128318,
  128329, 128335, 128336, 128360, 128367, 128369, 128371, 128379, 128391, 128392, 128394,
  128398, 128400, 128401, 128405, 128407, 128420, 128422, 128424, 128425, 128433, 128435,
  128444, 128445, 128450, 128453, 128465, 128468, 128476, 128479, 128481, 128482, 128483,
  128484, 128488, 128489, 128495, 128496, 128499, 128500, 128506, 128592, 128640, 128710,
  128715, 128723, 128725, 128728, 128732, 128742, 128745, 128746, 128747, 128749, 128752,
  128753, 128755, 128765, 128992, 129004, 129008, 129009, 129292, 129339, 129340, 129350,
  129351, 129536, 129648, 129661, 129664, 129674, 129679, 129735, 129742, 129757, 129759,
  129770, 129776, 129785] }

/-- Emoji that are shown as pictures unless a selector follows. -/
def emojiPresentation : CodePoints := { changes := [
  8986, 8988, 9193, 9197, 9200, 9201, 9203, 9204, 9725, 9727, 9748, 9750, 9800, 9812, 9855,
  9856, 9875, 9876, 9889, 9890, 9898, 9900, 9917, 9919, 9924, 9926, 9934, 9935, 9940, 9941,
  9962, 9963, 9970, 9972, 9973, 9974, 9978, 9979, 9981, 9982, 9989, 9990, 9994, 9996, 10024,
  10025, 10060, 10061, 10062, 10063, 10067, 10070, 10071, 10072, 10133, 10136, 10160, 10161,
  10175, 10176, 11035, 11037, 11088, 11089, 11093, 11094, 126980, 126981, 127183, 127184,
  127374, 127375, 127377, 127387, 127462, 127488, 127489, 127490, 127514, 127515, 127535,
  127536, 127538, 127543, 127544, 127547, 127568, 127570, 127744, 127777, 127789, 127798,
  127799, 127869, 127870, 127892, 127904, 127947, 127951, 127956, 127968, 127985, 127988,
  127989, 127992, 128063, 128064, 128065, 128066, 128253, 128255, 128318, 128331, 128335,
  128336, 128360, 128378, 128379, 128405, 128407, 128420, 128421, 128507, 128592, 128640,
  128710, 128716, 128717, 128720, 128723, 128725, 128728, 128732, 128736, 128747, 128749,
  128756, 128765, 128992, 129004, 129008, 129009, 129292, 129339, 129340, 129350, 129351,
  129536, 129648, 129661, 129664, 129674, 129679, 129735, 129742, 129757, 129759, 129770,
  129776, 129785] }

/-- The modifiers for skin tones. -/
def emojiModifier : CodePoints := { changes := [
  127995, 128000] }

/-- Emoji that take a modifier. -/
def emojiModifierBase : CodePoints := { changes := [
  9757, 9758, 9977, 9978, 9994, 9998, 127877, 127878, 127938, 127941, 127943, 127944, 127946,
  127949, 128066, 128068, 128070, 128081, 128102, 128121, 128124, 128125, 128129, 128132,
  128133, 128136, 128143, 128144, 128145, 128146, 128170, 128171, 128372, 128374, 128378,
  128379, 128400, 128401, 128405, 128407, 128581, 128584, 128587, 128592, 128675, 128676,
  128692, 128695, 128704, 128705, 128716, 128717, 129292, 129293, 129295, 129296, 129304,
  129312, 129318, 129319, 129328, 129338, 129340, 129343, 129399, 129400, 129461, 129463,
  129464, 129466, 129467, 129468, 129485, 129488, 129489, 129502, 129731, 129734, 129776, 129785] }

/-- Characters that are used in emoji but are none on their own. -/
def emojiComponent : CodePoints := { changes := [
  35, 36, 42, 43, 48, 58, 8205, 8206, 8419, 8420, 65039, 65040, 127462, 127488, 127995, 128000,
  129456, 129460, 917536, 917632] }

/-- Pictographs, those still to come included. -/
def extendedPictographic : CodePoints := { changes := [
  169, 170, 174, 175, 8252, 8253, 8265, 8266, 8482, 8483, 8505, 8506, 8596, 8602, 8617, 8619,
  8986, 8988, 9000, 9001, 9096, 9097, 9167, 9168, 9193, 9204, 9208, 9211, 9410, 9411, 9642,
  9644, 9654, 9655, 9664, 9665, 9723, 9727, 9728, 9734, 9735, 9747, 9748, 9862, 9872, 9990,
  9992, 10003, 10004, 10005, 10006, 10007, 10013, 10014, 10017, 10018, 10024, 10025, 10035,
  10037, 10052, 10053, 10055, 10056, 10060, 10061, 10062, 10063, 10067, 10070, 10071, 10072,
  10083, 10088, 10133, 10136, 10145, 10146, 10160, 10161, 10175, 10176, 10548, 10550, 11013,
  11016, 11035, 11037, 11088, 11089, 11093, 11094, 12336, 12337, 12349, 12350, 12951, 12952,
  12953, 12954, 126976, 127232, 127245, 127248, 127279, 127280, 127340, 127346, 127358, 127360,
  127374, 127375, 127377, 127387, 127405, 127462, 127489, 127504, 127514, 127515, 127535,
  127536, 127538, 127547, 127548, 127552, 127561, 127995, 128000, 128318, 128326, 128592,
  128640, 128768, 128884, 128896, 128981, 129024, 129036, 129040, 129096, 129104, 129114,
  129120, 129160, 129168, 129198, 129280, 129292, 129339, 129340, 129350, 129351, 129792,
  130048, 131070] }

end TreeQuery.Text.Property
