import BraceTemplate.Text.CodeSet

/-!
# Ages of characters

The edition of the character tables in which each character came in.  Patterns
know the editions up to `knownEditions`; the characters that came later are
unassigned to them.
-/

namespace BraceTemplate.Pattern.Class

open Text

def ageRuns : Runs Text := Runs.ofLines id
  ["1f6V1_1 4V3_0 1eV1_1 8V3_0 1V3_2 1V4_0 12V3_0 3V4_0 bV4_1 eV5_0 59V1_1 5V3_0 2V4_0 2fV1_1",
   "1V3_0 aV1_1 5V3_0 11V4_0 46V1_1 9V3_0 1V3_2 8V4_0 5V4_1 3V4_0 2V1_1 1V3_0 dV3_2 4V5_1 2V1_1",
   "2V5_1 2 1V1_1 3V5_0 1V1_1 1V7_0 4 7V1_1 1 1V1_1 1 14V1_1 1 2cV1_1 1V5_1 7V1_1 1V3_0 2V3_2",
   "1V1_1 1V3_0 1V1_1 1V3_0 1V1_1 1V3_0 1V1_1 1V3_0 12V1_1 2V3_1 1V3_2 5V4_0 4V4_1 1V3_0 cV1_1",
   "1V3_0 42V1_1 1V3_0 cV1_1 1V3_0 29V1_1 1V5_1 2V3_0 2V3_2 4V3_0 35V1_1 2V3_2 2V1_1 2V3_2 2V1_1",
   "2V3_2 1V5_0 1cV1_1 2V3_0 8V1_1 2V4_1 2V1_1 6V5_0 10V3_2 4V5_0 10V5_1 2V5_2 2V6_0 8V7_0 1",
   "26V1_1 2 7V1_1 1V11_0 27V1_1 1V11_0 1V1_1 1V3_0 2 2V7_0 1V6_1 1 11V2_0 1V4_1 dV2_0 aV1_1",
   "1V5_0 9V1_1 1V2_0 3V4_1 8 1bV1_1 4 1V11_0 5V1_1 b 4V4_0 1V6_1 1V7_0 5V5_1 1V4_1 1V1_1 9V4_0",
   "5V5_1 1V1_1 1V6_3 1V14_0 1V4_1 1V1_1 1V6_0 1aV1_1 5V5_1 13V1_1 3V3_0 3V4_0 6V4_1 1V6_0 eV1_1",
   "2V3_2 48V1_1 2V3_0 5V1_1 1V3_0 fV1_1 1V3_0 1eV1_1 2V4_0 aV1_1 5V3_0 1V4_0 eV3_0 1 1eV3_0",
   "3V4_0 1bV3_0 2 3V4_0 1eV4_1 12V5_1 31V3_0 1V3_2 e 3bV5_0 2 3V11_0 2eV5_2 2 fV5_2 1 1cV6_0 2",
   "1V6_0 1 bV10_0 5 1fV14_0 1V17_0 2V14_0 5 1V16_0 8V14_0 1V6_1 1V7_0 bV6_1 6V7_0 2V8_0 1V14_0",
   "8V9_0 aV13_0 bV14_0 1V11_0 fV9_0 1V8_0 1bV6_1 1V7_0 1V5_2 3V1_1 1V4_0 35V1_1 2V6_0 12V1_1",
   "1V5_2 1V6_0 5V1_1 1V5_2 2V6_0 19V1_1 2V5_1 5V6_0 1V7_0 2V5_2 2V5_0 1V4_1 2V5_0 1V7_0 3V1_1 1",
   "8V1_1 2 2V1_1 2 16V1_1 1 7V1_1 1 1V1_1 3 4V1_1 2 1V1_1 1V4_0 7V1_1 2 2V1_1 2 3V1_1 1V4_1 8",
   "1V1_1 4 2V1_1 1 5V1_1 2 15V1_1 1V5_2 2V10_0 1V11_0 2 1V4_0 1V1_1 1V4_0 1 6V1_1 4 2V1_1 2",
   "16V1_1 1 7V1_1 1 2V1_1 1 2V1_1 1 2V1_1 2 1V1_1 1 5V1_1 4 2V1_1 2 3V1_1 3 1V5_1 7 4V1_1 1",
   "1V1_1 7 fV1_1 1V5_1 1V11_0 a 3V1_1 1 7V1_1 1V4_0 1V1_1 1 3V1_1 1 16V1_1 1 7V1_1 1 2V1_1 1",
   "5V1_1 2 aV1_1 1 3V1_1 1 3V1_1 2 1V1_1 f 1V1_1 3V4_0 2 aV1_1 1V6_1 1V4_0 7 1V8_0 6V10_0 1",
   "3V1_1 1 8V1_1 2 2V1_1 2 16V1_1 1 7V1_1 1 2V1_1 1 1V4_0 4V1_1 2 8V1_1 1V5_1 2 2V1_1 2 3V1_1 7",
   "1V13_0 2V1_1 4 2V1_1 1 3V1_1 2V5_1 2 bV1_1 1V4_0 6V6_0 a 2V1_1 1 6V1_1 3 3V1_1 1 4V1_1 3",
   "2V1_1 1 1V1_1 1 2V1_1 3 2V1_1 3 3V1_1 3 8V1_1 1V4_1 3V1_1 4 5V1_1 3 3V1_1 1 4V1_1 2 1V5_1 6",
   "1V1_1 e 1V4_1 cV1_1 8V4_0 5 1V7_0 3V1_1 1V11_0 8V1_1 1 3V1_1 1 17V1_1 1 aV1_1 1V7_0 5V1_1 2",
   "1V14_0 1V5_1 7V1_1 1 3V1_1 1 4V1_1 7 2V1_1 1 2V5_1 1V8_0 1 1V17_0 1V14_0 2 2V1_1 2V5_1 2",
   "aV1_1 7 1V12_0 8V5_1 1V9_0 1V7_0 2V1_1 1V11_0 8V1_1 1 3V1_1 1 17V1_1 1 aV1_1 1 5V1_1 2 2V4_0",
   "7V1_1 1 3V1_1 1 4V1_1 7 2V1_1 5 1V17_0 1V14_0 1V1_1 1 2V1_1 2V5_0 2 aV1_1 1 2V5_0 1V15_0 c",
   "1V10_0 1V7_0 2V1_1 1V13_0 8V1_1 1 3V1_1 1 17V1_1 1V6_0 10V1_1 1V6_0 2V10_0 1V5_1 6V1_1 1V5_1",
   "1 3V1_1 1 4V1_1 1V6_0 1V9_0 4 3V9_0 1V1_1 7V9_0 1V8_0 2V1_1 2V5_1 2 aV1_1 6V5_1 3V9_0 7V5_1",
   "1 1V13_0 2V3_0 1 12V3_0 3 18V3_0 1 9V3_0 1 1V3_0 2 7V3_0 3 1V3_0 4 6V3_0 1 1V3_0 1 8V3_0 6",
   "aV7_0 2 3V3_0 c 3aV1_1 4 1dV1_1 25 2V1_1 1 1V1_1 1 1V12_0 2V1_1 1V12_0 1V1_1 1 1V12_0 1V1_1",
   "6V12_0 4V1_1 1V12_0 7V1_1 1V12_0 3V1_1 1 1V1_1 1 1V1_1 2V12_0 2V1_1 1V12_0 dV1_1 1V12_0",
   "3V1_1 2 5V1_1 1 1V1_1 1 6V1_1 1V15_0 1 aV1_1 2 2V1_1 2V6_1 20 48V2_0 1 21V2_0 1V3_0 2V5_1 4",
   "1bV2_0 4V6_0 6V2_0 1V3_0 1V2_0 1 15V2_0 3V3_0 7V2_0 1V3_0 1V2_0 3V3_0 1 fV3_0 1 1V5_1 1V3_0",
   "2V4_1 3V5_1 4V5_2 2V6_0 25 22V3_0 1V5_1 5V3_0 1V5_1 2V3_0 1V5_1 7V3_0 3V5_1 4V3_0 6V5_1",
   "1aV3_0 40V5_1 4V5_2 2V5_1 26V1_1 1 1V6_1 5 1V6_1 2 27V1_1 2V3_2 2V4_1 1V1_1 1V4_1 3V6_1",
   "5aV1_1 5V5_2 44V1_1 5V5_2 52V1_1 6V5_2 7V3_0 1V4_1 3fV3_0 1V4_1 1V3_0 1 4V3_0 2 7V3_0 1",
   "1V3_0 1 4V3_0 2 27V3_0 1V4_1 1V3_0 1 4V3_0 2 1fV3_0 1V4_1 1V3_0 1 4V3_0 2 7V3_0 1 1V3_0 1",
   "4V3_0 2 7V3_0 1V4_1 7V3_0 1 17V3_0 1V4_1 1fV3_0 1V4_1 1V3_0 1 4V3_0 2 7V3_0 1V4_1 27V3_0",
   "1V4_1 13V3_0 2 2V6_0 2V4_1 1cV3_0 3 1aV4_1 6 55V3_0 1V8_0 2 6V8_0 2 1V5_2 276V3_0 9V5_2",
   "1dV3_0 3 51V3_0 8V7_0 7 dV3_2 1V14_0 7V3_2 1V14_0 9 1V14_0 17V3_2 9 14V3_2 c dV3_2 1 3V3_2 1",
   "2V3_2 c 5dV3_0 1V4_0 2 aV3_0 6 aV4_0 6 fV3_0 1V14_0 aV3_0 6 58V3_0 1V11_0 7 2aV3_0 1V5_1 5",
   "46V5_2 a 1dV4_0 2V7_0 1 cV4_0 4 cV4_0 4 1V4_0 3 2aV4_0 2 5V4_0 b 2aV4_1 2V5_2 4 1aV4_1 6",
   "aV4_1 1V5_2 3 2V4_1 20V4_0 1cV4_1 2 2V4_1 3fV5_2 1 1dV5_2 2 bV5_2 6 aV5_2 6 eV5_2 2 fV7_0",
   "2V13_0 eV14_0 fV17_0 2 cV17_0 14 4cV5_0 1V14_0 1 2V16_0 2dV5_0 2V14_0 1V16_0 2bV5_1 3V6_1",
   "cV5_1 6V6_1 34V6_0 8 4V6_0 38V5_1 3 fV5_1 3 33V5_1 9V9_0 2V16_0 5 2bV11_0 2 3V11_0 8V6_1 8",
   "23V5_2 4V6_1 1V10_0 2V7_0 1V12_0 5 6cV4_0 58V4_1 7V5_0 1cV5_1 fV7_0 4V10_0 1V14_0 1V9_0",
   "1V6_0 1V5_2 2V5_0 9bV1_1 1V2_0 4V5_1 5aV1_1 6V5_1 16V1_1 2 6V1_1 2 26V1_1 2 6V1_1 2 8V1_1 1",
   "1V1_1 1 1V1_1 1 1V1_1 1 1fV1_1 2 35V1_1 1 fV1_1 1 eV1_1 2 6V1_1 1 13V1_1 2 3V1_1 1 9V1_1 1",
   "2fV1_1 1V3_0 17V1_1 1V3_2 6V3_0 5V3_2 2V4_0 2V4_1 1V3_2 7V4_1 5V3_2 1V5_1 1 4V6_3 7V1_1",
   "1V3_2 2 1bV1_1 1 5V4_1 8V6_0 3 bV1_1 1V2_0 1V2_1 3V3_0 2V3_2 4V4_1 3V5_2 1V6_0 1V6_2 3V7_0",
   "1V8_0 1V10_0 1V14_0 1V17_0 e 12V1_1 2V3_0 7V3_2 1V4_1 4V5_0 1V5_1 f 39V1_1 2V3_0 1V4_0 1V4_1",
   "fV3_2 1V4_1 2V5_0 1V5_1 3V5_2 30V1_1 1V3_0 1V5_0 4V5_1 1V5_2 2V8_0 4 5bV1_1 9V3_0 cV3_2",
   "f2V1_1 eV3_2 1V1_1 1V3_0 79V1_1 1V3_0 1V3_2 1eV3_0 34V3_2 2V4_0 bV4_1 cV5_0 1V5_2 bV6_0",
   "7V7_0 4V9_0 1V10_0 25V1_1 2V3_0 3V16_0 16 bV1_1 15 8bV1_1 14V3_2 1V4_0 96V1_1 aV3_2 50V1_1",
   "8V3_0 8V3_2 14V1_1 2V4_0 2V3_2 1V4_1 1V3_0 56V1_1 2V3_0 cV3_2 2V4_1 aV3_2 8V4_0 bV4_1 1V5_1",
   "2V5_2 2V4_0 10V4_1 1V5_0 aV5_1 3V5_2 4V5_1 aV5_2 1V6_0 13V5_2 1V6_0 1V5_2 4V6_0 18V5_2 1V7_0",
   "4V1_1 1V6_0 4V1_1 2V6_0 1cV1_1 1V6_0 23V1_1 1V6_0 1V1_1 1V6_0 4V1_1 3V6_0 1V1_1 1V5_2 7V1_1",
   "2V6_0 7V1_1 eV3_2 1fV1_1 3V6_0 18V1_1 1V6_0 eV1_1 1V6_0 7V4_1 4V5_0 1V6_1 1V5_1 1V6_1 2V6_0",
   "1cV3_2 4V5_1 10V3_2 100V3_0 200V3_2 eV4_0 6V4_1 7V5_0 5V5_1 4V5_0 29V5_1 3V7_0 5V5_1 5V5_2",
   "1aV7_0 2 20V7_0 1V17_0 1V13_0 22V7_0 3V11_0 cV7_0 1V12_0 8V7_0 1V10_0 19V11_0 4V8_0 fV11_0",
   "1V12_0 2fV4_1 1V14_0 2fV4_1 1V14_0 dV5_0 3V5_1 1V5_2 3V5_1 4V5_0 6V5_1 2V5_2 6bV4_1 7V5_2",
   "2V6_1 5 2dV4_1 1 1V6_1 5 1V6_1 2 36V4_1 2V6_1 7 1V4_1 1V6_0 e 1V6_0 17V4_1 9 7V4_1 1 7V4_1 1",
   "7V4_1 1 7V4_1 1 7V4_1 1 7V4_1 1 7V4_1 1 7V4_1 1 20V5_1 18V4_1 4V5_1 2V4_1 13V5_1 1V5_2 aV6_1",
   "7V7_0 2V9_0 5V10_0 5V11_0 1V12_0 3V13_0 bV14_0 22 1aV3_0 1 59V3_0 c d6V3_0 1a cV3_0 4V15_1",
   "38V1_1 3V3_0 3V3_2 1V3_0 1V1_1 1 54V1_1 2V3_2 2 6V1_1 2V3_2 5eV1_1 1V3_2 5 28V1_1 1V5_1",
   "1V10_0 1V11_0 1 5eV1_1 1 10V1_1 18V3_0 3V6_0 5V13_0 10V4_1 14V5_1 2V16_0 9 1V15_1 10V3_2",
   "1dV1_1 2V4_0 1 24V1_1 cV5_2 1V4_0 fV3_2 1cV1_1 2V4_0 1V4_1 32V1_1 fV3_2 cV1_1 4V4_0 2fV1_1",
   "1V12_1 77V1_1 4V4_0 63V1_1 2V4_0 1fV1_1 1V4_0 19b6V3_0 aV13_0 40V4_0 51a6V1_1 16V4_1 8V5_1",
   "8V5_2 1V6_1 9V8_0 15V10_0 5V11_0 dV13_0 3V14_0 48dV3_0 3 12V3_0 2V3_2 10V3_0 1V3_2 cV3_0",
   "1V3_2 3V3_0 1V3_2 1V3_0 9 30V5_2 12cV5_1 14 20V5_1 2V6_0 12V5_1 8V6_1 1cV5_1 6V7_0 1V8_0",
   "1V6_1 58V5_2 8 17V4_1 4V5_0 5V5_1 2V5_0 6bV5_1 2V6_0 1V8_0 2V6_0 2V6_1 cV7_0 aV6_0 1V6_1",
   "3V7_0 1V9_0 1V11_0 2V7_0 6V8_0 2V11_0 6V12_0 2V14_0 5V12_0 4V13_0 3V16_0 2V17_0 2V14_0",
   "1V17_0 1V14_0 1V17_0 5V14_0 3V16_0 14 1V17_0 3V14_0 2V13_0 1V7_0 2V6_1 1V6_0 5V5_1 2cV4_1",
   "1V13_0 3 aV5_2 6 38V5_0 8 45V5_1 1V9_0 8 cV5_1 6 1cV5_2 2V8_0 2V11_0 54V5_1 b 1V5_1 1dV5_2 3",
   "4eV5_2 1 bV5_2 4 2V5_2 1fV7_0 1 37V5_1 9 eV5_1 2 aV5_1 2 4V5_1 1cV5_2 4V7_0 43V5_2 18 5V5_2",
   "17V6_1 a 6V6_0 2 6V6_0 2 6V6_0 9 7V6_0 1 7V6_0 1 30V7_0 4V8_0 2V7_0 2V12_0 4V13_0 4 50V8_0",
   "2eV5_2 2 aV5_2 6 2ba4V2_0 c 17V5_2 4 31V5_2 804 1a2eV1_1 2V6_1 3bV3_2 3V5_2 2 6aV4_1 26",
   "7V1_1 c 5V1_1 5 1V3_0 19V1_1 1 5V1_1 1 1V1_1 1 2V1_1 1 2V1_1 1 6cV1_1 10V6_0 1V14_0 10V17_0",
   "16dV1_1 10V14_0 40V1_1 2V17_0 36V1_1 7V17_0 1V14_0 20V3_1 cV1_1 1V3_2 1V4_0 2V14_0 10V3_2",
   "aV4_1 6 4V1_1 3V5_1 7V7_0 2V8_0 15V1_1 2V3_2 2V4_0 aV1_1 1 13V1_1 1 4V1_1 4 3V1_1 1V3_2",
   "1V1_1 1 87V1_1 2 1V1_1 1 5eV1_1 2V3_2 5eV1_1 3 6V1_1 2 6V1_1 2 6V1_1 2 3V1_1 3 7V1_1 1 7V1_1",
   "a 3V3_0 1V2_1 3V1_1 cV4_0 1 1aV4_0 1 13V4_0 1 2V4_0 1 fV4_0 2 eV4_0 22 7bV4_0 5 3V4_0 4",
   "2dV4_0 3 9V4_0 4bV4_1 2V7_0 2V9_0 1 cV5_1 1V13_0 3 1V7_0 2f 2eV5_1 82 1dV5_1 3 31V5_1 f",
   "1cV7_0 4 1fV3_1 1V7_0 4V3_1 9 3V10_0 1bV3_1 5 2bV7_0 5 1eV4_0 1 1V4_0 24V4_1 4 eV4_1 2a",
   "26V3_1 2V4_0 26V3_1 50V4_0 2 aV4_0 6 24V9_0 4 24V9_0 4 28V7_0 8 34V7_0 b 1V7_0 bV14_0 1",
   "fV14_0 1 7V14_0 1 2V14_0 1 bV14_0 1 fV14_0 1 7V14_0 1 2V14_0 3 34V16_0 c 137V7_0 9 16V7_0 a",
   "8V7_0 18 6V14_0 1 2aV14_0 1 9V14_0 45 6V4_0 2 1V4_0 1 2cV4_0 1 2V4_0 3 1V4_0 2 1V4_0 16V5_2",
   "1 9V5_2 3fV7_0 8 9V7_0 30 13V8_0 1 2V8_0 5 5V8_0 1aV5_0 2V5_2 3 1V5_0 1aV5_1 5 1V5_1 1aV17_0",
   "26 38V6_1 4 2V8_0 2V6_1 10V8_0 2 2eV8_0 4V4_1 1 2V4_1 5 8V4_1 1 3V4_1 1 1bV4_1 2V11_0 2",
   "3V4_1 4 9V4_1 1V11_0 7 9V4_1 7 20V5_2 20V7_0 20 27V7_0 4 cV7_0 9 36V5_2 3 1dV5_2 2 1bV5_2 5",
   "8V5_2 12V7_0 7 4V7_0 c 7V7_0 50 49V5_2 37 33V8_0 d 33V8_0 7 6V8_0 28V11_0 8 aV11_0 6 26V16_0",
   "3 1dV16_0 8 2V16_0 d0 1fV5_2 1 2aV13_0 1 3V13_0 2 2V13_0 10 3V16_0 3V17_0 8 9V17_0 21 2V17_0",
   "1V16_0 3V15_0 28V11_0 8 2aV11_0 16 1aV14_0 26 1cV13_0 14 17V12_0 9 4eV6_0 4 1eV6_0 6V14_0 9",
   "1V7_0 42V5_2 1V14_0 a 1V11_0 2 19V6_1 7 aV6_1 6 35V6_1 1 eV6_1 3V11_0 1V13_0 8 27V7_0 9",
   "49V6_1 4V8_0 1V7_0 2V13_0 aV6_1 1V7_0 5V8_0 1 14V7_0 b 12V7_0 1 2bV7_0 1V9_0 3V15_0 3e 7V8_0",
   "1 1V8_0 1 4V8_0 1 fV8_0 1 bV8_0 6 3bV7_0 5 aV7_0 6 1V8_0 3V7_0 1 8V7_0 2 2V7_0 2 16V7_0 1",
   "7V7_0 1 2V7_0 1 5V7_0 1 1V11_0 9V7_0 2 2V7_0 2 3V7_0 2 1V8_0 6 1V7_0 5 7V7_0 2 7V7_0 3 5V7_0",
   "b aV16_0 1 1V16_0 2 1V16_0 1 26V16_0 1 aV16_0 1 1V16_0 2 1V16_0 1 4V16_0 1 aV16_0 1 2V16_0 8",
   "2V16_0 1d 5aV9_0 1V13_0 1V9_0 1 1V9_0 1V11_0 1V12_0 2V13_0 1e 48V7_0 8 aV7_0 a6 36V7_0 2",
   "12V7_0 14V8_0 22 45V7_0 b aV7_0 6 dV9_0 13 38V6_1 1V12_0 1V14_0 6 aV6_1 6 14V16_0 1c 1aV8_0",
   "1V11_0 2 fV8_0 4 10V8_0 7V14_0 b9 3cV11_0 64 53V7_0 c 1V7_0 7V13_0 2 1V13_0 2 8V13_0 1",
   "2V13_0 1 1eV13_0 1 2V13_0 2 cV13_0 9 aV13_0 46 8V12_0 2 2eV12_0 2 bV12_0 1b 48V10_0 8",
   "34V10_0 2V12_0 17V10_0 1V11_0 5V10_0 d 10V14_0 39V7_0 7 aV15_0 56 8V17_0 58 22V16_0 e aV16_0",
   "6 9V9_0 1 2dV9_0 1 eV9_0 a 1dV9_0 3 20V9_0 2 16V9_0 1 eV9_0 49 7V10_0 1 2V10_0 1 2cV10_0 3",
   "1V10_0 1 2V10_0 1 9V10_0 8 aV10_0 6 6V11_0 1 2V11_0 1 25V11_0 1 2V11_0 1 6V11_0 7 aV11_0 6",
   "2cV17_0 4 aV17_0 f6 19V11_0 7 11V15_0 1 29V15_0 3 1cV15_0 1V16_0 55 1V13_0 f 32V12_0 d",
   "1V12_0 36fV5_0 2aV7_0 1V8_0 66 63V5_0 cV7_0 1 4V5_0 1V7_0 b c4V8_0 a4c 63V14_0 d 42fV5_2",
   "1V15_0 9V12_0 1dV15_0 a f9bV16_0 5 247V8_0 1ab9 3aV16_0 6c6 239V6_0 7 1fV7_0 1 aV7_0 4 2V7_0",
   "4fV14_0 1 aV14_0 6 1eV7_0 2 6V7_0 a 46V7_0 a aV7_0 1 7V7_0 1 15V7_0 5 13V7_0 1b0 3aV16_0 c6",
   "5bV11_0 5 19V17_0 2 19V17_0 2c 45V6_1 6V12_0 4 1V12_0 2fV6_1 9V12_0 7 11V6_1 40 1V9_0 1V10_0",
   "2V12_0 1V13_0 b 2V13_0 5V17_0 9 17edV9_0 5V11_0 6V12_0 8V17_0 2f3V9_0 1e3V13_0 29 1V16_0",
   "9V13_0 16V17_0 61 73V17_0 21fd 4V14_0 1 7V14_0 1 2V14_0 1 2V6_0 11dV10_0 4V14_0 f 1V15_0 1d",
   "3V12_0 2 1V15_0 e 4V12_0 8 18cV10_0 904 6bV7_0 5 dV7_0 3 9V7_0 7 aV7_0 2 8V7_0 f5c faV16_0",
   "3V17_0 3 1b4V16_0 6 17V17_0 f 11V17_0 f 2eV14_0 2 17V14_0 9 74V14_0 3c f6V3_1 a 27V3_1 2",
   "1V5_1 b4V3_1 bV8_0 2V14_0 15 46V4_1 7a 14V15_0 c 14V11_0 c 57V4_0 9 12V5_0 7V11_0 87 55V3_1",
   "1 47V3_1 1 2V3_1 2 1V3_1 2 2V3_1 2 4V3_1 1 cV3_1 1 1V3_1 1 4V3_1 1V4_0 2V3_1 1 41V3_1 1",
   "4V3_1 2 8V3_1 1 7V3_1 1 1cV3_1 1 4V3_1 1 5V3_1 1 1V3_1 3 7V3_1 1 152V3_1 2V4_1 2 122V3_1",
   "2V5_0 2 32V3_1 28cV8_0 f 5V8_0 1 fV8_0 450 1fV14_0 6 6V15_0 d5 7V9_0 1 11V9_0 2 7V9_0 1",
   "2V9_0 1 5V9_0 5 3eV15_0 21 1V15_0 70 2dV12_0 3 eV12_0 2 aV12_0 4 2V12_0 140 1fV14_0 11",
   "3aV12_0 5 1V12_0 1d0 2aV15_0 d6 2bV16_0 4 1V16_0 c0 1fV17_0 1 16V17_0 8 2V17_0 e0 7V14_0 1",
   "4V14_0 1 2V14_0 1 fV14_0 1 c5V7_0 2 10V7_0 29 4bV9_0 1V12_0 4 aV9_0 4 2V9_0 311 44V11_0 4c",
   "3dV12_0 c2 4V6_1 1 1bV6_1 1 2V6_1 1 1V6_1 2 1V6_1 1 aV6_1 1 4V6_1 1 1V6_1 1 1V6_1 6 1V6_1 4",
   "1V6_1 1 1V6_1 1 1V6_1 1 3V6_1 1 2V6_1 1 1V6_1 2 1V6_1 1 1V6_1 1 1V6_1 1 1V6_1 1 1V6_1 1",
   "2V6_1 1 1V6_1 2 4V6_1 1 7V6_1 1 4V6_1 1 4V6_1 1 1V6_1 1 aV6_1 1 11V6_1 5 3V6_1 1 5V6_1 1",
   "11V6_1 34 2V6_1 10e 2cV5_1 4 64V5_1 c fV6_0 2 eV6_0 1V7_0 1 fV6_0 1 fV6_0 16V7_0 a bV5_2",
   "2V7_0 3V13_0 1fV5_2 1V11_0 1V6_0 1V5_2 bV6_0 1V5_2 1V6_0 1V5_2 2V6_0 1V5_2 3V6_0 1V5_2 3V6_0",
   "5V5_2 8V6_0 1V5_2 7V6_0 1V5_2 aV6_0 2V6_1 1V12_0 3V13_0 9V6_0 1V5_2 1V6_0 2V5_2 2V6_0 1V5_2",
   "aV6_0 4V5_2 2V6_0 1V5_2 aV6_0 12V9_0 1V13_0 38 1aV6_0 1V5_2 2V6_0 d 22V5_2 9V6_0 1V9_0 4",
   "9V5_2 7 2V6_0 e 6V10_0 9a 21V6_0 cV7_0 3V8_0 6V6_0 1V7_0 46V6_0 1V7_0 2V8_0 14V6_0 cV7_0",
   "25V6_0 1V7_0 5V6_0 4V7_0 5V8_0 cV7_0 11V6_0 7V7_0 8V8_0 3fV6_0 1V7_0 1V6_0 1V7_0 b6V6_0",
   "1V7_0 4V6_0 2V7_0 1V8_0 3eV6_0 2V7_0 4V6_1 7V7_0 5V8_0 18V6_0 12V7_0 1V9_0 29V7_0 1V9_0",
   "56V7_0 5V6_0 1V6_1 10V6_0 1V6_1 3V6_0 1V6_1 1V6_0 1V6_1 1V6_0 1V6_1 1V6_0 1V6_1 3V6_0 1V6_1",
   "6V6_0 2V6_1 4V6_0 1V6_1 1V6_0 2V6_1 4V6_0 1V6_1 cV6_0 2V7_0 2V8_0 bV6_0 30V7_0 46V6_0 aV7_0",
   "1V8_0 2V9_0 2V10_0 1V12_0 2V13_0 1V17_0 3 1V15_0 3V14_0 dV7_0 3 4V7_0 3V9_0 2V10_0 1V11_0",
   "1V12_0 2V13_0 3 74V6_0 3V15_0 4V17_0 5V15_0 55V7_0 4V11_0 1V15_0 6 cV12_0 4 1V14_0 f cV7_0 4",
   "38V7_0 8 aV7_0 6 28V7_0 8 1eV7_0 2 2V13_0 aV16_0 4 2V16_0 e 9V17_0 27 cV10_0 1V13_0 3V12_0",
   "9V8_0 6V9_0 1V10_0 8V9_0 8V10_0 1V9_0 2V10_0 cV9_0 1V12_0 cV9_0 1V10_0 3V11_0 fV9_0 dV10_0",
   "5V11_0 1V12_0 1V13_0 4V11_0 2V13_0 1V14_0 1V11_0 1V12_0 4V11_0 5V8_0 dV9_0 6V10_0 bV11_0",
   "2V13_0 6V12_0 3V13_0 2V12_0 aV11_0 6V12_0 1V8_0 2V11_0 8V12_0 1V13_0 1V14_0 3V12_0 17V10_0",
   "19V11_0 54V12_0 4V17_0 8 eV11_0 2 4V12_0 1V13_0 3V15_0 3V12_0 2V14_0 3 3V12_0 4V13_0 2V15_0",
   "1V16_0 1V17_0 3 1V17_0 1V16_0 6V12_0 13V13_0 4V14_0 3V15_0 7V13_0 4V14_0 3V15_0 1V16_0",
   "1V15_0 3V13_0 3V14_0 1V16_0 1 1V17_0 4 1V17_0 2V15_0 7V13_0 3V14_0 2V15_0 1V16_0 2 1V16_0",
   "8V14_0 1V15_0 1V16_0 1V17_0 4 1V17_0 7V14_0 2V15_0 7 93V13_0 1 37V13_0 25V16_0 aV13_0 1V17_0",
   "403 2V2_0 a6d7V3_1 7V13_0 2V14_0 20 1035V5_2 4V14_0 1V15_0 6V17_0 deV6_0 2 1682V8_0 cV17_0 2",
   "1d31V10_0 f 26eV15_1 9a2 21eV3_1 5e0 2V2_0 134bV13_0 5 1060V15_0 10caV17_0 cb84 2V2_0 fffe",
   "2V2_0 fffe 2V2_0 fffe 2V2_0 fffe 2V2_0 fffe 2V2_0 fffe 2V2_0 fffe 2V2_0 fffe 2V2_0 fffe",
   "2V2_0 fffe 2V2_0 1 1V3_1 1e 60V3_1 80 f0V4_0 fe0e 20002V2_0"]

def knownEditions : List Text :=
  wordsOfLines
    ["V1_1 V2_0 V2_1 V3_0 V3_1 V3_2 V4_0 V4_1 V5_0 V5_1 V5_2 V6_0 V6_1 V6_2 V6_3 V7_0 V8_0 V9_0",
     "V10_0 V11_0 V12_0 V12_1 V13_0 V14_0 V15_0 V15_1 V16_0"]

def later : CodeSet :=
  CodeSet.ofRuns ageRuns fun edition => !edition.isEmpty && !knownEditions.contains edition

def upTo (edition : Text) : CodeSet :=
  let before := knownEditions.takeWhile (· != edition)
  CodeSet.ofRuns ageRuns fun e => e == edition || before.contains e

end BraceTemplate.Pattern.Class
