import TypingAudit.Text.Composition

/-!
What the Unicode standard takes characters of names apart into, compatible forms included.
-/

namespace TypingAudit.Text

/-- Ranges of characters that each stand for one other: first, last, and what the first stands for. -/
def shiftTable : RangeTable := Table.triples (Table.numbers [
  "aa aa 61 b5 b5 3bc ba ba 6f 17f 17f 73 2b0 2b0 68 2b1 2b1 266 2b2 2b2 6a 2b3 2b3 72 2b4 2b4 279",
  "2b5 2b5 27b 2b6 2b6 281 2b7 2b7 77 2b8 2b8 79 2e0 2e0 263 2e1 2e1 6c 2e2 2e2 73 2e3 2e3 78 2e4",
  "2e4 295 340 341 300 343 343 313 374 374 2b9 387 387 b7 3d0 3d0 3b2 3d1 3d1 3b8 3d2 3d2 3a5 3d5",
  "3d5 3c6 3d6 3d6 3c0 3f0 3f0 3ba 3f1 3f2 3c1 3f4 3f4 398 3f5 3f5 3b5 3f9 3f9 3a3 10fc 10fc 10dc",
  "1d2c 1d2c 41 1d2d 1d2d c6 1d2e 1d2e 42 1d30 1d31 44 1d32 1d32 18e 1d33 1d3a 47 1d3c 1d3c 4f 1d3d",
  "1d3d 222 1d3e 1d3e 50 1d3f 1d3f 52 1d40 1d41 54 1d42 1d42 57 1d43 1d43 61 1d44 1d45 250 1d46",
  "1d46 1d02 1d47 1d47 62 1d48 1d49 64 1d4a 1d4a 259 1d4b 1d4c 25b 1d4d 1d4d 67 1d4f 1d4f 6b 1d50",
  "1d50 6d 1d51 1d51 14b 1d52 1d52 6f 1d53 1d53 254 1d54 1d55 1d16 1d56 1d56 70 1d57 1d58 74 1d59",
  "1d59 1d1d 1d5a 1d5a 26f 1d5b 1d5b 76 1d5c 1d5c 1d25 1d5d 1d5f 3b2 1d60 1d61 3c6 1d62 1d62 69",
  "1d63 1d63 72 1d64 1d65 75 1d66 1d67 3b2 1d68 1d68 3c1 1d69 1d6a 3c6 1d78 1d78 43d 1d9b 1d9b 252",
  "1d9c 1d9c 63 1d9d 1d9d 255 1d9e 1d9e f0 1d9f 1d9f 25c 1da0 1da0 66 1da1 1da1 25f 1da2 1da2 261",
  "1da3 1da3 265 1da4 1da6 268 1da7 1da7 1d7b 1da8 1da8 29d 1da9 1da9 26d 1daa 1daa 1d85 1dab 1dab",
  "29f 1dac 1dac 271 1dad 1dad 270 1dae 1db1 272 1db2 1db2 278 1db3 1db4 282 1db5 1db5 1ab 1db6",
  "1db7 289 1db8 1db8 1d1c 1db9 1dba 28b 1dbb 1dbb 7a 1dbc 1dbe 290 1dbf 1dbf 3b8 1fbe 1fbe 3b9",
  "2071 2071 69 207f 207f 6e 2090 2090 61 2091 2091 65 2092 2092 6f 2093 2093 78 2094 2094 259 2095",
  "2095 68 2096 2099 6b 209a 209a 70 209b 209c 73 2102 2102 43 2107 2107 190 210a 210a 67 210b 210b",
  "48 210c 210c 48 210d 210d 48 210e 210e 68 210f 210f 127 2110 2110 49 2111 2111 49 2112 2112 4c",
  "2113 2113 6c 2115 2115 4e 2119 211b 50 211c 211c 52 211d 211d 52 2124 2124 5a 2126 2126 3a9 2128",
  "2128 5a 212a 212a 4b 212c 212d 42 212f 212f 65 2130 2131 45 2133 2133 4d 2134 2134 6f 2135 2138",
  "5d0 2139 2139 69 213c 213c 3c0 213d 213d 3b3 213e 213e 393 213f 213f 3a0 2145 2145 44 2146 2147",
  "64 2148 2149 69 2160 2160 49 2164 2164 56 2169 2169 58 216c 216c 4c 216d 216e 43 216f 216f 4d",
  "2170 2170 69 2174 2174 76 2179 2179 78 217c 217c 6c 217d 217e 63 217f 217f 6d 2c7c 2c7c 6a 2c7d",
  "2c7d 56 2d6f 2d6f 2d61 3038 3038 5341 3039 303a 5344 3131 3132 1100 3133 3133 11aa 3134 3134",
  "1102 3135 3136 11ac 3137 3139 1103 313a 313f 11b0 3140 3140 111a 3141 3143 1106 3144 3144 1121",
  "3145 314e 1109 314f 3163 1161 3164 3164 1160 3165 3166 1114 3167 3168 11c7 3169 3169 11cc 316a",
  "316a 11ce 316b 316b 11d3 316c 316c 11d7 316d 316d 11d9 316e 316e 111c 316f 316f 11dd 3170 3170",
  "11df 3171 3172 111d 3173 3173 1120 3174 3175 1122 3176 3176 1127 3177 3177 1129 3178 317c 112b",
  "317d 317d 1132 317e 317e 1136 317f 317f 1140 3180 3180 1147 3181 3181 114c 3182 3183 11f1 3184",
  "3186 1157 3187 3188 1184 3189 3189 1188 318a 318b 1191 318c 318c 1194 318d 318d 119e 318e 318e",
  "11a1 a69c a69c 44a a69d a69d 44c a770 a770 a76f a7f2 a7f2 43 a7f3 a7f3 46 a7f4 a7f4 51 a7f8 a7f8",
  "126 a7f9 a7f9 153 ab5c ab5c a727 ab5d ab5d ab37 ab5e ab5e 26b ab5f ab5f ab52 ab69 ab69 28d f900",
  "f900 8c48 f901 f901 66f4 f902 f902 8eca f903 f903 8cc8 f904 f904 6ed1 f905 f905 4e32 f906 f906",
  "53e5 f907 f907 9f9c f908 f908 9f9c f909 f909 5951 f90a f90a 91d1 f90b f90b 5587 f90c f90c 5948",
  "f90d f90d 61f6 f90e f90e 7669 f90f f90f 7f85 f910 f910 863f f911 f911 87ba f912 f912 88f8 f913",
  "f913 908f f914 f914 6a02 f915 f915 6d1b f916 f916 70d9 f917 f917 73de f918 f918 843d f919 f919",
  "916a f91a f91a 99f1 f91b f91b 4e82 f91c f91c 5375 f91d f91d 6b04 f91e f91e 721b f91f f91f 862d",
  "f920 f920 9e1e f921 f921 5d50 f922 f922 6feb f923 f923 85cd f924 f924 8964 f925 f925 62c9 f926",
  "f926 81d8 f927 f927 881f f928 f928 5eca f929 f929 6717 f92a f92a 6d6a f92b f92b 72fc f92c f92c",
  "90ce f92d f92d 4f86 f92e f92e 51b7 f92f f92f 52de f930 f930 64c4 f931 f931 6ad3 f932 f932 7210",
  "f933 f933 76e7 f934 f934 8001 f935 f935 8606 f936 f936 865c f937 f937 8def f938 f938 9732 f939",
  "f939 9b6f f93a f93a 9dfa f93b f93b 788c f93c f93c 797f f93d f93d 7da0 f93e f93e 83c9 f93f f93f",
  "9304 f940 f940 9e7f f941 f941 8ad6 f942 f942 58df f943 f943 5f04 f944 f944 7c60 f945 f945 807e",
  "f946 f946 7262 f947 f947 78ca f948 f948 8cc2 f949 f949 96f7 f94a f94a 58d8 f94b f94b 5c62 f94c",
  "f94c 6a13 f94d f94d 6dda f94e f94e 6f0f f94f f94f 7d2f f950 f950 7e37 f951 f951 964b f952 f952",
  "52d2 f953 f953 808b f954 f954 51dc f955 f955 51cc f956 f956 7a1c f957 f957 7dbe f958 f958 83f1",
  "f959 f959 9675 f95a f95a 8b80 f95b f95b 62cf f95c f95c 6a02 f95d f95d 8afe f95e f95e 4e39 f95f",
  "f95f 5be7 f960 f960 6012 f961 f961 7387 f962 f962 7570 f963 f963 5317 f964 f964 78fb f965 f965",
  "4fbf f966 f966 5fa9 f967 f967 4e0d f968 f968 6ccc f969 f969 6578 f96a f96a 7d22 f96b f96b 53c3",
  "f96c f96c 585e f96d f96d 7701 f96e f96e 8449 f96f f96f 8aaa f970 f970 6bba f971 f971 8fb0 f972",
  "f972 6c88 f973 f973 62fe f974 f974 82e5 f975 f975 63a0 f976 f976 7565 f977 f977 4eae f978 f978",
  "5169 f979 f979 51c9 f97a f97a 6881 f97b f97b 7ce7 f97c f97c 826f f97d f97d 8ad2 f97e f97e 91cf",
  "f97f f97f 52f5 f980 f980 5442 f981 f981 5973 f982 f982 5eec f983 f983 65c5 f984 f984 6ffe f985",
  "f985 792a f986 f986 95ad f987 f987 9a6a f988 f988 9e97 f989 f989 9ece f98a f98a 529b f98b f98b",
  "66c6 f98c f98c 6b77 f98d f98d 8f62 f98e f98e 5e74 f98f f98f 6190 f990 f990 6200 f991 f991 649a",
  "f992 f992 6f23 f993 f993 7149 f994 f994 7489 f995 f995 79ca f996 f996 7df4 f997 f997 806f f998",
  "f998 8f26 f999 f999 84ee f99a f99a 9023 f99b f99b 934a f99c f99c 5217 f99d f99d 52a3 f99e f99e",
  "54bd f99f f99f 70c8 f9a0 f9a0 88c2 f9a1 f9a1 8aaa f9a2 f9a2 5ec9 f9a3 f9a3 5ff5 f9a4 f9a4 637b",
  "f9a5 f9a5 6bae f9a6 f9a6 7c3e f9a7 f9a7 7375 f9a8 f9a8 4ee4 f9a9 f9a9 56f9 f9aa f9aa 5be7 f9ab",
  "f9ab 5dba f9ac f9ac 601c f9ad f9ad 73b2 f9ae f9ae 7469 f9af f9af 7f9a f9b0 f9b0 8046 f9b1 f9b1",
  "9234 f9b2 f9b2 96f6 f9b3 f9b3 9748 f9b4 f9b4 9818 f9b5 f9b5 4f8b f9b6 f9b6 79ae f9b7 f9b7 91b4",
  "f9b8 f9b8 96b8 f9b9 f9b9 60e1 f9ba f9ba 4e86 f9bb f9bb 50da f9bc f9bc 5bee f9bd f9bd 5c3f f9be",
  "f9be 6599 f9bf f9bf 6a02 f9c0 f9c0 71ce f9c1 f9c1 7642 f9c2 f9c2 84fc f9c3 f9c3 907c f9c4 f9c4",
  "9f8d f9c5 f9c5 6688 f9c6 f9c6 962e f9c7 f9c7 5289 f9c8 f9c8 677b f9c9 f9c9 67f3 f9ca f9ca 6d41",
  "f9cb f9cb 6e9c f9cc f9cc 7409 f9cd f9cd 7559 f9ce f9ce 786b f9cf f9cf 7d10 f9d0 f9d0 985e f9d1",
  "f9d1 516d f9d2 f9d2 622e f9d3 f9d3 9678 f9d4 f9d4 502b f9d5 f9d5 5d19 f9d6 f9d6 6dea f9d7 f9d7",
  "8f2a f9d8 f9d8 5f8b f9d9 f9d9 6144 f9da f9da 6817 f9db f9db 7387 f9dc f9dc 9686 f9dd f9dd 5229",
  "f9de f9de 540f f9df f9df 5c65 f9e0 f9e0 6613 f9e1 f9e1 674e f9e2 f9e2 68a8 f9e3 f9e3 6ce5 f9e4",
  "f9e4 7406 f9e5 f9e5 75e2 f9e6 f9e6 7f79 f9e7 f9e7 88cf f9e8 f9e8 88e1 f9e9 f9e9 91cc f9ea f9ea",
  "96e2 f9eb f9eb 533f f9ec f9ec 6eba f9ed f9ed 541d f9ee f9ee 71d0 f9ef f9ef 7498 f9f0 f9f0 85fa",
  "f9f1 f9f1 96a3 f9f2 f9f2 9c57 f9f3 f9f3 9e9f f9f4 f9f4 6797 f9f5 f9f5 6dcb f9f6 f9f6 81e8 f9f7",
  "f9f7 7acb f9f8 f9f8 7b20 f9f9 f9f9 7c92 f9fa f9fa 72c0 f9fb f9fb 7099 f9fc f9fc 8b58 f9fd f9fd",
  "4ec0 f9fe f9fe 8336 f9ff f9ff 523a fa00 fa00 5207 fa01 fa01 5ea6 fa02 fa02 62d3 fa03 fa03 7cd6",
  "fa04 fa04 5b85 fa05 fa05 6d1e fa06 fa06 66b4 fa07 fa07 8f3b fa08 fa08 884c fa09 fa09 964d fa0a",
  "fa0a 898b fa0b fa0b 5ed3 fa0c fa0c 5140 fa0d fa0d 55c0 fa10 fa10 585a fa12 fa12 6674 fa15 fa15",
  "51de fa16 fa16 732a fa17 fa17 76ca fa18 fa18 793c fa19 fa19 795e fa1a fa1a 7965 fa1b fa1b 798f",
  "fa1c fa1c 9756 fa1d fa1d 7cbe fa1e fa1e 7fbd fa20 fa20 8612 fa22 fa22 8af8 fa25 fa25 9038 fa26",
  "fa26 90fd fa2a fa2a 98ef fa2b fa2b 98fc fa2c fa2c 9928 fa2d fa2d 9db4 fa2e fa2e 90de fa2f fa2f",
  "96b7 fa30 fa30 4fae fa31 fa31 50e7 fa32 fa32 514d fa33 fa33 52c9 fa34 fa34 52e4 fa35 fa35 5351",
  "fa36 fa36 559d fa37 fa37 5606 fa38 fa38 5668 fa39 fa39 5840 fa3a fa3a 58a8 fa3b fa3b 5c64 fa3c",
  "fa3c 5c6e fa3d fa3d 6094 fa3e fa3e 6168 fa3f fa3f 618e fa40 fa40 61f2 fa41 fa41 654f fa42 fa42",
  "65e2 fa43 fa43 6691 fa44 fa44 6885 fa45 fa45 6d77 fa46 fa46 6e1a fa47 fa47 6f22 fa48 fa48 716e",
  "fa49 fa49 722b fa4a fa4a 7422 fa4b fa4b 7891 fa4c fa4c 793e fa4d fa4d 7949 fa4e fa4e 7948 fa4f",
  "fa4f 7950 fa50 fa50 7956 fa51 fa51 795d fa52 fa53 798d fa54 fa54 7a40 fa55 fa55 7a81 fa56 fa56",
  "7bc0 fa57 fa57 7df4 fa58 fa58 7e09 fa59 fa59 7e41 fa5a fa5a 7f72 fa5b fa5b 8005 fa5c fa5c 81ed",
  "fa5d fa5d 8279 fa5e fa5e 8279 fa5f fa5f 8457 fa60 fa60 8910 fa61 fa61 8996 fa62 fa62 8b01 fa63",
  "fa63 8b39 fa64 fa64 8cd3 fa65 fa65 8d08 fa66 fa66 8fb6 fa67 fa67 9038 fa68 fa68 96e3 fa69 fa69",
  "97ff fa6a fa6a 983b fa6b fa6b 6075 fa6c fa6c 242ee fa6d fa6d 8218 fa70 fa70 4e26 fa71 fa71 51b5",
  "fa72 fa72 5168 fa73 fa73 4f80 fa74 fa74 5145 fa75 fa75 5180 fa76 fa76 52c7 fa77 fa77 52fa fa78",
  "fa78 559d fa79 fa79 5555 fa7a fa7a 5599 fa7b fa7b 55e2 fa7c fa7c 585a fa7d fa7d 58b3 fa7e fa7e",
  "5944 fa7f fa7f 5954 fa80 fa80 5a62 fa81 fa81 5b28 fa82 fa82 5ed2 fa83 fa83 5ed9 fa84 fa84 5f69",
  "fa85 fa85 5fad fa86 fa86 60d8 fa87 fa87 614e fa88 fa88 6108 fa89 fa89 618e fa8a fa8a 6160 fa8b",
  "fa8b 61f2 fa8c fa8c 6234 fa8d fa8d 63c4 fa8e fa8e 641c fa8f fa8f 6452 fa90 fa90 6556 fa91 fa91",
  "6674 fa92 fa92 6717 fa93 fa93 671b fa94 fa94 6756 fa95 fa95 6b79 fa96 fa96 6bba fa97 fa97 6d41",
  "fa98 fa98 6edb fa99 fa99 6ecb fa9a fa9a 6f22 fa9b fa9b 701e fa9c fa9c 716e fa9d fa9d 77a7 fa9e",
  "fa9e 7235 fa9f fa9f 72af faa0 faa0 732a faa1 faa1 7471 faa2 faa2 7506 faa3 faa3 753b faa4 faa4",
  "761d faa5 faa5 761f faa6 faa6 76ca faa7 faa7 76db faa8 faa8 76f4 faa9 faa9 774a faaa faaa 7740",
  "faab faab 78cc faac faac 7ab1 faad faad 7bc0 faae faae 7c7b faaf faaf 7d5b fab0 fab0 7df4 fab1",
  "fab1 7f3e fab2 fab2 8005 fab3 fab3 8352 fab4 fab4 83ef fab5 fab5 8779 fab6 fab6 8941 fab7 fab7",
  "8986 fab8 fab8 8996 fab9 fab9 8abf faba faba 8af8 fabb fabb 8acb fabc fabc 8b01 fabd fabd 8afe",
  "fabe fabe 8aed fabf fabf 8b39 fac0 fac0 8b8a fac1 fac1 8d08 fac2 fac2 8f38 fac3 fac3 9072 fac4",
  "fac4 9199 fac5 fac5 9276 fac6 fac6 967c fac7 fac7 96e3 fac8 fac8 9756 fac9 fac9 97db faca faca",
  "97ff facb facb 980b facc facc 983b facd facd 9b12 face face 9f9c facf facf 2284a fad0 fad0 22844",
  "fad1 fad1 233d5 fad2 fad2 3b9d fad3 fad3 4018 fad4 fad4 4039 fad5 fad5 25249 fad6 fad6 25cd0",
  "fad7 fad7 27ed3 fad8 fad8 9f43 fad9 fad9 9f8e fb20 fb20 5e2 fb21 fb21 5d0 fb22 fb23 5d3 fb24",
  "fb26 5db fb27 fb27 5e8 fb28 fb28 5ea fb50 fb50 671 fb51 fb51 671 fb52 fb52 67b fb53 fb53 67b",
  "fb54 fb54 67b fb55 fb55 67b fb56 fb56 67e fb57 fb57 67e fb58 fb58 67e fb59 fb59 67e fb5a fb5a",
  "680 fb5b fb5b 680 fb5c fb5c 680 fb5d fb5d 680 fb5e fb5e 67a fb5f fb5f 67a fb60 fb60 67a fb61",
  "fb61 67a fb62 fb62 67f fb63 fb63 67f fb64 fb64 67f fb65 fb65 67f fb66 fb66 679 fb67 fb67 679",
  "fb68 fb68 679 fb69 fb69 679 fb6a fb6a 6a4 fb6b fb6b 6a4 fb6c fb6c 6a4 fb6d fb6d 6a4 fb6e fb6e",
  "6a6 fb6f fb6f 6a6 fb70 fb70 6a6 fb71 fb71 6a6 fb72 fb72 684 fb73 fb73 684 fb74 fb74 684 fb75",
  "fb75 684 fb76 fb76 683 fb77 fb77 683 fb78 fb78 683 fb79 fb79 683 fb7a fb7a 686 fb7b fb7b 686",
  "fb7c fb7c 686 fb7d fb7e 686 fb7f fb7f 687 fb80 fb80 687 fb81 fb81 687 fb82 fb82 68d fb83 fb83",
  "68d fb84 fb84 68c fb85 fb85 68c fb86 fb86 68e fb87 fb87 68e fb88 fb88 688 fb89 fb89 688 fb8a",
  "fb8a 698 fb8b fb8b 698 fb8c fb8c 691 fb8d fb8d 691 fb8e fb8e 6a9 fb8f fb8f 6a9 fb90 fb90 6a9",
  "fb91 fb91 6a9 fb92 fb92 6af fb93 fb93 6af fb94 fb94 6af fb95 fb95 6af fb96 fb96 6b3 fb97 fb97",
  "6b3 fb98 fb98 6b3 fb99 fb99 6b3 fb9a fb9a 6b1 fb9b fb9b 6b1 fb9c fb9c 6b1 fb9d fb9d 6b1 fb9e",
  "fb9e 6ba fb9f fba0 6ba fba1 fba1 6bb fba2 fba2 6bb fba3 fba3 6bb fba6 fba6 6c1 fba7 fba7 6c1",
  "fba8 fba8 6c1 fba9 fba9 6c1 fbaa fbaa 6be fbab fbab 6be fbac fbac 6be fbad fbad 6be fbae fbae",
  "6d2 fbaf fbaf 6d2 fbd3 fbd3 6ad fbd4 fbd4 6ad fbd5 fbd5 6ad fbd6 fbd6 6ad fbd7 fbd7 6c7 fbd8",
  "fbd8 6c7 fbd9 fbd9 6c6 fbda fbda 6c6 fbdb fbdb 6c8 fbdc fbdc 6c8 fbde fbde 6cb fbdf fbdf 6cb",
  "fbe0 fbe0 6c5 fbe1 fbe1 6c5 fbe2 fbe2 6c9 fbe3 fbe3 6c9 fbe4 fbe4 6d0 fbe5 fbe5 6d0 fbe6 fbe6",
  "6d0 fbe7 fbe7 6d0 fbe8 fbe8 649 fbe9 fbe9 649 fbfc fbfc 6cc fbfd fbfd 6cc fbfe fbfe 6cc fbff",
  "fbff 6cc fe33 fe33 5f fe34 fe34 5f fe4d fe4d 5f fe4e fe4e 5f fe4f fe4f 5f fe80 fe80 621 fe8d",
  "fe8d 627 fe8e fe8f 627 fe90 fe90 628 fe91 fe91 628 fe92 fe93 628 fe94 fe95 629 fe96 fe96 62a",
  "fe97 fe97 62a fe98 fe99 62a fe9a fe9a 62b fe9b fe9b 62b fe9c fe9d 62b fe9e fe9e 62c fe9f fe9f",
  "62c fea0 fea1 62c fea2 fea2 62d fea3 fea3 62d fea4 fea5 62d fea6 fea6 62e fea7 fea7 62e fea8",
  "fea9 62e feaa feab 62f feac fead 630 feae feaf 631 feb0 feb1 632 feb2 feb2 633 feb3 feb3 633",
  "feb4 feb5 633 feb6 feb6 634 feb7 feb7 634 feb8 feb9 634 feba feba 635 febb febb 635 febc febd",
  "635 febe febe 636 febf febf 636 fec0 fec1 636 fec2 fec2 637 fec3 fec3 637 fec4 fec5 637 fec6",
  "fec6 638 fec7 fec7 638 fec8 fec9 638 feca feca 639 fecb fecb 639 fecc fecd 639 fece fece 63a",
  "fecf fecf 63a fed0 fed0 63a fed1 fed1 641 fed2 fed2 641 fed3 fed3 641 fed4 fed5 641 fed6 fed6",
  "642 fed7 fed7 642 fed8 fed9 642 feda feda 643 fedb fedb 643 fedc fedd 643 fede fede 644 fedf",
  "fedf 644 fee0 fee1 644 fee2 fee2 645 fee3 fee3 645 fee4 fee5 645 fee6 fee6 646 fee7 fee7 646",
  "fee8 fee9 646 feea feea 647 feeb feeb 647 feec feed 647 feee feef 648 fef0 fef1 649 fef2 fef2",
  "64a fef3 fef3 64a fef4 fef4 64a ff10 ff19 30 ff21 ff3a 41 ff3f ff3f 5f ff41 ff5a 61 ff66 ff66",
  "30f2 ff67 ff67 30a1 ff68 ff68 30a3 ff69 ff69 30a5 ff6a ff6a 30a7 ff6b ff6b 30a9 ff6c ff6c 30e3",
  "ff6d ff6d 30e5 ff6e ff6e 30e7 ff6f ff6f 30c3 ff70 ff70 30fc ff71 ff71 30a2 ff72 ff72 30a4 ff73",
  "ff73 30a6 ff74 ff74 30a8 ff75 ff76 30aa ff77 ff77 30ad ff78 ff78 30af ff79 ff79 30b1 ff7a ff7a",
  "30b3 ff7b ff7b 30b5 ff7c ff7c 30b7 ff7d ff7d 30b9 ff7e ff7e 30bb ff7f ff7f 30bd ff80 ff80 30bf",
  "ff81 ff81 30c1 ff82 ff82 30c4 ff83 ff83 30c6 ff84 ff84 30c8 ff85 ff8a 30ca ff8b ff8b 30d2 ff8c",
  "ff8c 30d5 ff8d ff8d 30d8 ff8e ff8e 30db ff8f ff93 30de ff94 ff94 30e4 ff95 ff95 30e6 ff96 ff9b",
  "30e8 ff9c ff9c 30ef ff9d ff9d 30f3 ff9e ff9f 3099 ffa0 ffa0 1160 ffa1 ffa2 1100 ffa3 ffa3 11aa",
  "ffa4 ffa4 1102 ffa5 ffa6 11ac ffa7 ffa9 1103 ffaa ffaf 11b0 ffb0 ffb0 111a ffb1 ffb3 1106 ffb4",
  "ffb4 1121 ffb5 ffbe 1109 ffc2 ffc7 1161 ffca ffcf 1167 ffd2 ffd7 116d ffda ffdc 1173 10781 10782",
  "2d0 10783 10783 e6 10784 10784 299 10785 10785 253 10787 10787 2a3 10788 10788 ab66 10789 10789",
  "2a5 1078a 1078a 2a4 1078b 1078c 256 1078d 1078d 1d91 1078e 1078e 258 1078f 1078f 25e 10790 10790",
  "2a9 10791 10791 264 10792 10792 262 10793 10793 260 10794 10794 29b 10795 10795 127 10796 10796",
  "29c 10797 10797 267 10798 10798 284 10799 1079a 2aa 1079b 1079b 26c 1079c 1079c 1df04 1079d",
  "1079d a78e 1079e 1079e 26e 1079f 1079f 1df05 107a0 107a0 28e 107a1 107a1 1df06 107a2 107a2 f8",
  "107a3 107a4 276 107a5 107a5 71 107a6 107a6 27a 107a7 107a7 1df08 107a8 107a9 27d 107aa 107aa 280",
  "107ab 107ab 2a8 107ac 107ac 2a6 107ad 107ad ab67 107ae 107ae 2a7 107af 107af 288 107b0 107b0",
  "2c71 107b2 107b2 28f 107b3 107b4 2a1 107b5 107b5 298 107b6 107b8 1c0 107b9 107b9 1df0a 107ba",
  "107ba 1df1e 1d400 1d419 41 1d41a 1d433 61 1d434 1d44d 41 1d44e 1d454 61 1d456 1d467 69 1d468",
  "1d481 41 1d482 1d49b 61 1d49c 1d49c 41 1d49e 1d49f 43 1d4a2 1d4a2 47 1d4a5 1d4a6 4a 1d4a9 1d4ac",
  "4e 1d4ae 1d4b5 53 1d4b6 1d4b9 61 1d4bb 1d4bb 66 1d4bd 1d4c3 68 1d4c5 1d4cf 70 1d4d0 1d4e9 41",
  "1d4ea 1d503 61 1d504 1d505 41 1d507 1d50a 44 1d50d 1d514 4a 1d516 1d51c 53 1d51e 1d537 61 1d538",
  "1d539 41 1d53b 1d53e 44 1d540 1d544 49 1d546 1d546 4f 1d54a 1d550 53 1d552 1d56b 61 1d56c 1d585",
  "41 1d586 1d59f 61 1d5a0 1d5b9 41 1d5ba 1d5d3 61 1d5d4 1d5ed 41 1d5ee 1d607 61 1d608 1d621 41",
  "1d622 1d63b 61 1d63c 1d655 41 1d656 1d66f 61 1d670 1d689 41 1d68a 1d6a3 61 1d6a4 1d6a4 131 1d6a5",
  "1d6a5 237 1d6a8 1d6b8 391 1d6b9 1d6b9 398 1d6ba 1d6c0 3a3 1d6c2 1d6da 3b1 1d6dc 1d6dc 3b5 1d6dd",
  "1d6dd 3b8 1d6de 1d6de 3ba 1d6df 1d6df 3c6 1d6e0 1d6e0 3c1 1d6e1 1d6e1 3c0 1d6e2 1d6f2 391 1d6f3",
  "1d6f3 398 1d6f4 1d6fa 3a3 1d6fc 1d714 3b1 1d716 1d716 3b5 1d717 1d717 3b8 1d718 1d718 3ba 1d719",
  "1d719 3c6 1d71a 1d71a 3c1 1d71b 1d71b 3c0 1d71c 1d72c 391 1d72d 1d72d 398 1d72e 1d734 3a3 1d736",
  "1d74e 3b1 1d750 1d750 3b5 1d751 1d751 3b8 1d752 1d752 3ba 1d753 1d753 3c6 1d754 1d754 3c1 1d755",
  "1d755 3c0 1d756 1d766 391 1d767 1d767 398 1d768 1d76e 3a3 1d770 1d788 3b1 1d78a 1d78a 3b5 1d78b",
  "1d78b 3b8 1d78c 1d78c 3ba 1d78d 1d78d 3c6 1d78e 1d78e 3c1 1d78f 1d78f 3c0 1d790 1d7a0 391 1d7a1",
  "1d7a1 398 1d7a2 1d7a8 3a3 1d7aa 1d7c2 3b1 1d7c4 1d7c4 3b5 1d7c5 1d7c5 3b8 1d7c6 1d7c6 3ba 1d7c7",
  "1d7c7 3c6 1d7c8 1d7c8 3c1 1d7c9 1d7c9 3c0 1d7ca 1d7cb 3dc 1d7ce 1d7d7 30 1d7d8 1d7e1 30 1d7e2",
  "1d7eb 30 1d7ec 1d7f5 30 1d7f6 1d7ff 30 1ee00 1ee01 627 1ee02 1ee02 62c 1ee03 1ee03 62f 1ee05",
  "1ee05 648 1ee06 1ee06 632 1ee07 1ee07 62d 1ee08 1ee08 637 1ee09 1ee09 64a 1ee0a 1ee0d 643 1ee0e",
  "1ee0e 633 1ee0f 1ee0f 639 1ee10 1ee10 641 1ee11 1ee11 635 1ee12 1ee12 642 1ee13 1ee13 631 1ee14",
  "1ee14 634 1ee15 1ee16 62a 1ee17 1ee17 62e 1ee18 1ee18 630 1ee19 1ee19 636 1ee1a 1ee1a 638 1ee1b",
  "1ee1b 63a 1ee1c 1ee1c 66e 1ee1d 1ee1d 6ba 1ee1e 1ee1e 6a1 1ee1f 1ee1f 66f 1ee21 1ee21 628 1ee22",
  "1ee22 62c 1ee24 1ee24 647 1ee27 1ee27 62d 1ee29 1ee29 64a 1ee2a 1ee2d 643 1ee2e 1ee2e 633 1ee2f",
  "1ee2f 639 1ee30 1ee30 641 1ee31 1ee31 635 1ee32 1ee32 642 1ee34 1ee34 634 1ee35 1ee36 62a 1ee37",
  "1ee37 62e 1ee39 1ee39 636 1ee3b 1ee3b 63a 1ee42 1ee42 62c 1ee47 1ee47 62d 1ee49 1ee49 64a 1ee4b",
  "1ee4b 644 1ee4d 1ee4d 646 1ee4e 1ee4e 633 1ee4f 1ee4f 639 1ee51 1ee51 635 1ee52 1ee52 642 1ee54",
  "1ee54 634 1ee57 1ee57 62e 1ee59 1ee59 636 1ee5b 1ee5b 63a 1ee5d 1ee5d 6ba 1ee5f 1ee5f 66f 1ee61",
  "1ee61 628 1ee62 1ee62 62c 1ee64 1ee64 647 1ee67 1ee67 62d 1ee68 1ee68 637 1ee69 1ee69 64a 1ee6a",
  "1ee6a 643 1ee6c 1ee6d 645 1ee6e 1ee6e 633 1ee6f 1ee6f 639 1ee70 1ee70 641 1ee71 1ee71 635 1ee72",
  "1ee72 642 1ee74 1ee74 634 1ee75 1ee76 62a 1ee77 1ee77 62e 1ee79 1ee79 636 1ee7a 1ee7a 638 1ee7b",
  "1ee7b 63a 1ee7c 1ee7c 66e 1ee7e 1ee7e 6a1 1ee80 1ee81 627 1ee82 1ee82 62c 1ee83 1ee83 62f 1ee84",
  "1ee85 647 1ee86 1ee86 632 1ee87 1ee87 62d 1ee88 1ee88 637 1ee89 1ee89 64a 1ee8b 1ee8d 644 1ee8e",
  "1ee8e 633 1ee8f 1ee8f 639 1ee90 1ee90 641 1ee91 1ee91 635 1ee92 1ee92 642 1ee93 1ee93 631 1ee94",
  "1ee94 634 1ee95 1ee96 62a 1ee97 1ee97 62e 1ee98 1ee98 630 1ee99 1ee99 636 1ee9a 1ee9a 638 1ee9b",
  "1ee9b 63a 1eea1 1eea1 628 1eea2 1eea2 62c 1eea3 1eea3 62f 1eea5 1eea5 648 1eea6 1eea6 632 1eea7",
  "1eea7 62d 1eea8 1eea8 637 1eea9 1eea9 64a 1eeab 1eead 644 1eeae 1eeae 633 1eeaf 1eeaf 639 1eeb0",
  "1eeb0 641 1eeb1 1eeb1 635 1eeb2 1eeb2 642 1eeb3 1eeb3 631 1eeb4 1eeb4 634 1eeb5 1eeb6 62a 1eeb7",
  "1eeb7 62e 1eeb8 1eeb8 630 1eeb9 1eeb9 636 1eeba 1eeba 638 1eebb 1eebb 63a 1fbf0 1fbf9 30 2f800",
  "2f800 4e3d 2f801 2f801 4e38 2f802 2f802 4e41 2f803 2f803 20122 2f804 2f804 4f60 2f805 2f805 4fae",
  "2f806 2f806 4fbb 2f807 2f807 5002 2f808 2f808 507a 2f809 2f809 5099 2f80a 2f80a 50e7 2f80b 2f80b",
  "50cf 2f80c 2f80c 349e 2f80d 2f80d 2063a 2f80e 2f80e 514d 2f80f 2f80f 5154 2f810 2f810 5164 2f811",
  "2f811 5177 2f812 2f812 2051c 2f813 2f813 34b9 2f814 2f814 5167 2f815 2f815 518d 2f816 2f816",
  "2054b 2f817 2f817 5197 2f818 2f818 51a4 2f819 2f819 4ecc 2f81a 2f81a 51ac 2f81b 2f81b 51b5 2f81c",
  "2f81c 291df 2f81d 2f81d 51f5 2f81e 2f81e 5203 2f81f 2f81f 34df 2f820 2f820 523b 2f821 2f821 5246",
  "2f822 2f822 5272 2f823 2f823 5277 2f824 2f824 3515 2f825 2f825 52c7 2f826 2f826 52c9 2f827 2f827",
  "52e4 2f828 2f828 52fa 2f829 2f82a 5305 2f82b 2f82b 5317 2f82c 2f82c 5349 2f82d 2f82d 5351 2f82e",
  "2f82e 535a 2f82f 2f82f 5373 2f830 2f830 537d 2f831 2f831 537f 2f832 2f832 537f 2f833 2f833 537f",
  "2f834 2f834 20a2c 2f835 2f835 7070 2f836 2f836 53ca 2f837 2f837 53df 2f838 2f838 20b63 2f839",
  "2f839 53eb 2f83a 2f83a 53f1 2f83b 2f83b 5406 2f83c 2f83c 549e 2f83d 2f83d 5438 2f83e 2f83e 5448",
  "2f83f 2f83f 5468 2f840 2f840 54a2 2f841 2f841 54f6 2f842 2f842 5510 2f843 2f843 5553 2f844 2f844",
  "5563 2f845 2f845 5584 2f846 2f846 5584 2f847 2f847 5599 2f848 2f848 55ab 2f849 2f849 55b3 2f84a",
  "2f84a 55c2 2f84b 2f84b 5716 2f84c 2f84c 5606 2f84d 2f84d 5717 2f84e 2f84e 5651 2f84f 2f84f 5674",
  "2f850 2f850 5207 2f851 2f851 58ee 2f852 2f852 57ce 2f853 2f853 57f4 2f854 2f854 580d 2f855 2f855",
  "578b 2f856 2f856 5832 2f857 2f857 5831 2f858 2f858 58ac 2f859 2f859 214e4 2f85a 2f85a 58f2 2f85b",
  "2f85b 58f7 2f85c 2f85c 5906 2f85d 2f85d 591a 2f85e 2f85e 5922 2f85f 2f85f 5962 2f860 2f860 216a8",
  "2f861 2f861 216ea 2f862 2f862 59ec 2f863 2f863 5a1b 2f864 2f864 5a27 2f865 2f865 59d8 2f866",
  "2f866 5a66 2f867 2f867 36ee 2f868 2f868 36fc 2f869 2f869 5b08 2f86a 2f86a 5b3e 2f86b 2f86b 5b3e",
  "2f86c 2f86c 219c8 2f86d 2f86d 5bc3 2f86e 2f86e 5bd8 2f86f 2f86f 5be7 2f870 2f870 5bf3 2f871",
  "2f871 21b18 2f872 2f872 5bff 2f873 2f873 5c06 2f874 2f874 5f53 2f875 2f875 5c22 2f876 2f876 3781",
  "2f877 2f877 5c60 2f878 2f878 5c6e 2f879 2f879 5cc0 2f87a 2f87a 5c8d 2f87b 2f87b 21de4 2f87c",
  "2f87c 5d43 2f87d 2f87d 21de6 2f87e 2f87e 5d6e 2f87f 2f87f 5d6b 2f880 2f880 5d7c 2f881 2f882 5de1",
  "2f883 2f883 382f 2f884 2f884 5dfd 2f885 2f885 5e28 2f886 2f886 5e3d 2f887 2f887 5e69 2f888 2f888",
  "3862 2f889 2f889 22183 2f88a 2f88a 387c 2f88b 2f88b 5eb0 2f88c 2f88c 5eb3 2f88d 2f88d 5eb6 2f88e",
  "2f88e 5eca 2f88f 2f88f 2a392 2f890 2f890 5efe 2f891 2f891 22331 2f892 2f892 22331 2f893 2f893",
  "8201 2f894 2f894 5f22 2f895 2f895 5f22 2f896 2f896 38c7 2f897 2f897 232b8 2f898 2f898 261da",
  "2f899 2f899 5f62 2f89a 2f89a 5f6b 2f89b 2f89b 38e3 2f89c 2f89c 5f9a 2f89d 2f89d 5fcd 2f89e 2f89e",
  "5fd7 2f89f 2f89f 5ff9 2f8a0 2f8a0 6081 2f8a1 2f8a1 393a 2f8a2 2f8a2 391c 2f8a3 2f8a3 6094 2f8a4",
  "2f8a4 226d4 2f8a5 2f8a5 60c7 2f8a6 2f8a6 6148 2f8a7 2f8a7 614c 2f8a8 2f8a8 614e 2f8a9 2f8a9 614c",
  "2f8aa 2f8aa 617a 2f8ab 2f8ab 618e 2f8ac 2f8ac 61b2 2f8ad 2f8ad 61a4 2f8ae 2f8ae 61af 2f8af 2f8af",
  "61de 2f8b0 2f8b0 61f2 2f8b1 2f8b1 61f6 2f8b2 2f8b2 6210 2f8b3 2f8b3 621b 2f8b4 2f8b4 625d 2f8b5",
  "2f8b5 62b1 2f8b6 2f8b6 62d4 2f8b7 2f8b7 6350 2f8b8 2f8b8 22b0c 2f8b9 2f8b9 633d 2f8ba 2f8ba 62fc",
  "2f8bb 2f8bb 6368 2f8bc 2f8bc 6383 2f8bd 2f8bd 63e4 2f8be 2f8be 22bf1 2f8bf 2f8bf 6422 2f8c0",
  "2f8c0 63c5 2f8c1 2f8c1 63a9 2f8c2 2f8c2 3a2e 2f8c3 2f8c3 6469 2f8c4 2f8c4 647e 2f8c5 2f8c5 649d",
  "2f8c6 2f8c6 6477 2f8c7 2f8c7 3a6c 2f8c8 2f8c8 654f 2f8c9 2f8c9 656c 2f8ca 2f8ca 2300a 2f8cb",
  "2f8cb 65e3 2f8cc 2f8cc 66f8 2f8cd 2f8cd 6649 2f8ce 2f8ce 3b19 2f8cf 2f8cf 6691 2f8d0 2f8d0 3b08",
  "2f8d1 2f8d1 3ae4 2f8d2 2f8d2 5192 2f8d3 2f8d3 5195 2f8d4 2f8d4 6700 2f8d5 2f8d5 669c 2f8d6 2f8d6",
  "80ad 2f8d7 2f8d7 43d9 2f8d8 2f8d8 6717 2f8d9 2f8d9 671b 2f8da 2f8da 6721 2f8db 2f8db 675e 2f8dc",
  "2f8dc 6753 2f8dd 2f8dd 233c3 2f8de 2f8de 3b49 2f8df 2f8df 67fa 2f8e0 2f8e0 6785 2f8e1 2f8e1 6852",
  "2f8e2 2f8e2 6885 2f8e3 2f8e3 2346d 2f8e4 2f8e4 688e 2f8e5 2f8e5 681f 2f8e6 2f8e6 6914 2f8e7",
  "2f8e7 3b9d 2f8e8 2f8e8 6942 2f8e9 2f8e9 69a3 2f8ea 2f8ea 69ea 2f8eb 2f8eb 6aa8 2f8ec 2f8ec 236a3",
  "2f8ed 2f8ed 6adb 2f8ee 2f8ee 3c18 2f8ef 2f8ef 6b21 2f8f0 2f8f0 238a7 2f8f1 2f8f1 6b54 2f8f2",
  "2f8f2 3c4e 2f8f3 2f8f3 6b72 2f8f4 2f8f4 6b9f 2f8f5 2f8f6 6bba 2f8f7 2f8f7 23a8d 2f8f8 2f8f8",
  "21d0b 2f8f9 2f8f9 23afa 2f8fa 2f8fa 6c4e 2f8fb 2f8fb 23cbc 2f8fc 2f8fc 6cbf 2f8fd 2f8fd 6ccd",
  "2f8fe 2f8fe 6c67 2f8ff 2f8ff 6d16 2f900 2f900 6d3e 2f901 2f901 6d77 2f902 2f902 6d41 2f903 2f903",
  "6d69 2f904 2f904 6d78 2f905 2f905 6d85 2f906 2f906 23d1e 2f907 2f907 6d34 2f908 2f908 6e2f 2f909",
  "2f909 6e6e 2f90a 2f90a 3d33 2f90b 2f90b 6ecb 2f90c 2f90c 6ec7 2f90d 2f90d 23ed1 2f90e 2f90e 6df9",
  "2f90f 2f90f 6f6e 2f910 2f910 23f5e 2f911 2f911 23f8e 2f912 2f912 6fc6 2f913 2f913 7039 2f914",
  "2f914 701e 2f915 2f915 701b 2f916 2f916 3d96 2f917 2f917 704a 2f918 2f918 707d 2f919 2f919 7077",
  "2f91a 2f91a 70ad 2f91b 2f91b 20525 2f91c 2f91c 7145 2f91d 2f91d 24263 2f91e 2f91e 719c 2f91f",
  "2f91f 243ab 2f920 2f920 7228 2f921 2f921 7235 2f922 2f922 7250 2f923 2f923 24608 2f924 2f924",
  "7280 2f925 2f925 7295 2f926 2f926 24735 2f927 2f927 24814 2f928 2f928 737a 2f929 2f929 738b",
  "2f92a 2f92a 3eac 2f92b 2f92b 73a5 2f92c 2f92c 3eb8 2f92d 2f92d 3eb8 2f92e 2f92e 7447 2f92f 2f92f",
  "745c 2f930 2f930 7471 2f931 2f931 7485 2f932 2f932 74ca 2f933 2f933 3f1b 2f934 2f934 7524 2f935",
  "2f935 24c36 2f936 2f936 753e 2f937 2f937 24c92 2f938 2f938 7570 2f939 2f939 2219f 2f93a 2f93a",
  "7610 2f93b 2f93b 24fa1 2f93c 2f93c 24fb8 2f93d 2f93d 25044 2f93e 2f93e 3ffc 2f93f 2f93f 4008",
  "2f940 2f940 76f4 2f941 2f941 250f3 2f942 2f942 250f2 2f943 2f943 25119 2f944 2f944 25133 2f945",
  "2f946 771e 2f947 2f947 771f 2f948 2f948 774a 2f949 2f949 4039 2f94a 2f94a 778b 2f94b 2f94b 4046",
  "2f94c 2f94c 4096 2f94d 2f94d 2541d 2f94e 2f94e 784e 2f94f 2f94f 788c 2f950 2f950 78cc 2f951",
  "2f951 40e3 2f952 2f952 25626 2f953 2f953 7956 2f954 2f954 2569a 2f955 2f955 256c5 2f956 2f956",
  "798f 2f957 2f957 79eb 2f958 2f958 412f 2f959 2f959 7a40 2f95a 2f95a 7a4a 2f95b 2f95b 7a4f 2f95c",
  "2f95c 2597c 2f95d 2f95d 25aa7 2f95e 2f95e 25aa7 2f95f 2f95f 7aee 2f960 2f960 4202 2f961 2f961",
  "25bab 2f962 2f962 7bc6 2f963 2f963 7bc9 2f964 2f964 4227 2f965 2f965 25c80 2f966 2f966 7cd2",
  "2f967 2f967 42a0 2f968 2f968 7ce8 2f969 2f969 7ce3 2f96a 2f96a 7d00 2f96b 2f96b 25f86 2f96c",
  "2f96c 7d63 2f96d 2f96d 4301 2f96e 2f96e 7dc7 2f96f 2f96f 7e02 2f970 2f970 7e45 2f971 2f971 4334",
  "2f972 2f972 26228 2f973 2f973 26247 2f974 2f974 4359 2f975 2f975 262d9 2f976 2f976 7f7a 2f977",
  "2f977 2633e 2f978 2f978 7f95 2f979 2f979 7ffa 2f97a 2f97a 8005 2f97b 2f97b 264da 2f97c 2f97c",
  "26523 2f97d 2f97d 8060 2f97e 2f97e 265a8 2f97f 2f97f 8070 2f980 2f980 2335f 2f981 2f981 43d5",
  "2f982 2f982 80b2 2f983 2f983 8103 2f984 2f984 440b 2f985 2f985 813e 2f986 2f986 5ab5 2f987 2f987",
  "267a7 2f988 2f988 267b5 2f989 2f989 23393 2f98a 2f98a 2339c 2f98b 2f98b 8201 2f98c 2f98c 8204",
  "2f98d 2f98d 8f9e 2f98e 2f98e 446b 2f98f 2f98f 8291 2f990 2f990 828b 2f991 2f991 829d 2f992 2f992",
  "52b3 2f993 2f993 82b1 2f994 2f994 82b3 2f995 2f995 82bd 2f996 2f996 82e6 2f997 2f997 26b3c 2f998",
  "2f998 82e5 2f999 2f999 831d 2f99a 2f99a 8363 2f99b 2f99b 83ad 2f99c 2f99c 8323 2f99d 2f99d 83bd",
  "2f99e 2f99e 83e7 2f99f 2f99f 8457 2f9a0 2f9a0 8353 2f9a1 2f9a1 83ca 2f9a2 2f9a2 83cc 2f9a3 2f9a3",
  "83dc 2f9a4 2f9a4 26c36 2f9a5 2f9a5 26d6b 2f9a6 2f9a6 26cd5 2f9a7 2f9a7 452b 2f9a8 2f9a8 84f1",
  "2f9a9 2f9a9 84f3 2f9aa 2f9aa 8516 2f9ab 2f9ab 273ca 2f9ac 2f9ac 8564 2f9ad 2f9ad 26f2c 2f9ae",
  "2f9ae 455d 2f9af 2f9af 4561 2f9b0 2f9b0 26fb1 2f9b1 2f9b1 270d2 2f9b2 2f9b2 456b 2f9b3 2f9b3",
  "8650 2f9b4 2f9b4 865c 2f9b5 2f9b5 8667 2f9b6 2f9b6 8669 2f9b7 2f9b7 86a9 2f9b8 2f9b8 8688 2f9b9",
  "2f9b9 870e 2f9ba 2f9ba 86e2 2f9bb 2f9bb 8779 2f9bc 2f9bc 8728 2f9bd 2f9bd 876b 2f9be 2f9be 8786",
  "2f9bf 2f9bf 45d7 2f9c0 2f9c0 87e1 2f9c1 2f9c1 8801 2f9c2 2f9c2 45f9 2f9c3 2f9c3 8860 2f9c4 2f9c4",
  "8863 2f9c5 2f9c5 27667 2f9c6 2f9c6 88d7 2f9c7 2f9c7 88de 2f9c8 2f9c8 4635 2f9c9 2f9c9 88fa 2f9ca",
  "2f9ca 34bb 2f9cb 2f9cb 278ae 2f9cc 2f9cc 27966 2f9cd 2f9cd 46be 2f9ce 2f9ce 46c7 2f9cf 2f9cf",
  "8aa0 2f9d0 2f9d0 8aed 2f9d1 2f9d1 8b8a 2f9d2 2f9d2 8c55 2f9d3 2f9d3 27ca8 2f9d4 2f9d4 8cab 2f9d5",
  "2f9d5 8cc1 2f9d6 2f9d6 8d1b 2f9d7 2f9d7 8d77 2f9d8 2f9d8 27f2f 2f9d9 2f9d9 20804 2f9da 2f9da",
  "8dcb 2f9db 2f9db 8dbc 2f9dc 2f9dc 8df0 2f9dd 2f9dd 208de 2f9de 2f9de 8ed4 2f9df 2f9df 8f38 2f9e0",
  "2f9e0 285d2 2f9e1 2f9e1 285ed 2f9e2 2f9e2 9094 2f9e3 2f9e3 90f1 2f9e4 2f9e4 9111 2f9e5 2f9e5",
  "2872e 2f9e6 2f9e6 911b 2f9e7 2f9e7 9238 2f9e8 2f9e9 92d7 2f9ea 2f9ea 927c 2f9eb 2f9eb 93f9 2f9ec",
  "2f9ec 9415 2f9ed 2f9ed 28bfa 2f9ee 2f9ee 958b 2f9ef 2f9ef 4995 2f9f0 2f9f0 95b7 2f9f1 2f9f1",
  "28d77 2f9f2 2f9f2 49e6 2f9f3 2f9f3 96c3 2f9f4 2f9f4 5db2 2f9f5 2f9f5 9723 2f9f6 2f9f6 29145",
  "2f9f7 2f9f7 2921a 2f9f8 2f9f8 4a6e 2f9f9 2f9f9 4a76 2f9fa 2f9fa 97e0 2f9fb 2f9fb 2940a 2f9fc",
  "2f9fc 4ab2 2f9fd 2f9fd 29496 2f9fe 2f9fe 980b 2f9ff 2f9ff 980b 2fa00 2fa00 9829 2fa01 2fa01",
  "295b6 2fa02 2fa02 98e2 2fa03 2fa03 4b33 2fa04 2fa04 9929 2fa05 2fa05 99a7 2fa06 2fa06 99c2 2fa07",
  "2fa07 99fe 2fa08 2fa08 4bce 2fa09 2fa09 29b30 2fa0a 2fa0a 9b12 2fa0b 2fa0b 9c40 2fa0c 2fa0c 9cfd",
  "2fa0d 2fa0d 4cce 2fa0e 2fa0e 4ced 2fa0f 2fa0f 9d67 2fa10 2fa10 2a0ce 2fa11 2fa11 4cf8 2fa12",
  "2fa12 2a105 2fa13 2fa13 2a20e 2fa14 2fa14 2a291 2fa15 2fa15 9ebb 2fa16 2fa16 4d56 2fa17 2fa17",
  "9ef9 2fa18 2fa18 9efe 2fa19 2fa19 9f05 2fa1a 2fa1a 9f0f 2fa1b 2fa1b 9f16 2fa1c 2fa1c 9f3b 2fa1d",
  "2fa1d 2a600"])

/-- Characters that stand for several: the character, how many, and these. -/
def expansionFigures : List Nat := Table.numbers [
  "c0 2 41 300 c1 2 41 301 c2 2 41 302 c3 2 41 303 c4 2 41 308 c5 2 41 30a c7 2 43 327 c8 2 45 300",
  "c9 2 45 301 ca 2 45 302 cb 2 45 308 cc 2 49 300 cd 2 49 301 ce 2 49 302 cf 2 49 308 d1 2 4e 303",
  "d2 2 4f 300 d3 2 4f 301 d4 2 4f 302 d5 2 4f 303 d6 2 4f 308 d9 2 55 300 da 2 55 301 db 2 55 302",
  "dc 2 55 308 dd 2 59 301 e0 2 61 300 e1 2 61 301 e2 2 61 302 e3 2 61 303 e4 2 61 308 e5 2 61 30a",
  "e7 2 63 327 e8 2 65 300 e9 2 65 301 ea 2 65 302 eb 2 65 308 ec 2 69 300 ed 2 69 301 ee 2 69 302",
  "ef 2 69 308 f1 2 6e 303 f2 2 6f 300 f3 2 6f 301 f4 2 6f 302 f5 2 6f 303 f6 2 6f 308 f9 2 75 300",
  "fa 2 75 301 fb 2 75 302 fc 2 75 308 fd 2 79 301 ff 2 79 308 100 2 41 304 101 2 61 304 102 2 41",
  "306 103 2 61 306 104 2 41 328 105 2 61 328 106 2 43 301 107 2 63 301 108 2 43 302 109 2 63 302",
  "10a 2 43 307 10b 2 63 307 10c 2 43 30c 10d 2 63 30c 10e 2 44 30c 10f 2 64 30c 112 2 45 304 113 2",
  "65 304 114 2 45 306 115 2 65 306 116 2 45 307 117 2 65 307 118 2 45 328 119 2 65 328 11a 2 45",
  "30c 11b 2 65 30c 11c 2 47 302 11d 2 67 302 11e 2 47 306 11f 2 67 306 120 2 47 307 121 2 67 307",
  "122 2 47 327 123 2 67 327 124 2 48 302 125 2 68 302 128 2 49 303 129 2 69 303 12a 2 49 304 12b 2",
  "69 304 12c 2 49 306 12d 2 69 306 12e 2 49 328 12f 2 69 328 130 2 49 307 132 2 49 4a 133 2 69 6a",
  "134 2 4a 302 135 2 6a 302 136 2 4b 327 137 2 6b 327 139 2 4c 301 13a 2 6c 301 13b 2 4c 327 13c 2",
  "6c 327 13d 2 4c 30c 13e 2 6c 30c 13f 2 4c b7 140 2 6c b7 143 2 4e 301 144 2 6e 301 145 2 4e 327",
  "146 2 6e 327 147 2 4e 30c 148 2 6e 30c 149 2 2bc 6e 14c 2 4f 304 14d 2 6f 304 14e 2 4f 306 14f 2",
  "6f 306 150 2 4f 30b 151 2 6f 30b 154 2 52 301 155 2 72 301 156 2 52 327 157 2 72 327 158 2 52",
  "30c 159 2 72 30c 15a 2 53 301 15b 2 73 301 15c 2 53 302 15d 2 73 302 15e 2 53 327 15f 2 73 327",
  "160 2 53 30c 161 2 73 30c 162 2 54 327 163 2 74 327 164 2 54 30c 165 2 74 30c 168 2 55 303 169 2",
  "75 303 16a 2 55 304 16b 2 75 304 16c 2 55 306 16d 2 75 306 16e 2 55 30a 16f 2 75 30a 170 2 55",
  "30b 171 2 75 30b 172 2 55 328 173 2 75 328 174 2 57 302 175 2 77 302 176 2 59 302 177 2 79 302",
  "178 2 59 308 179 2 5a 301 17a 2 7a 301 17b 2 5a 307 17c 2 7a 307 17d 2 5a 30c 17e 2 7a 30c 1a0 2",
  "4f 31b 1a1 2 6f 31b 1af 2 55 31b 1b0 2 75 31b 1c4 3 44 5a 30c 1c5 3 44 7a 30c 1c6 3 64 7a 30c",
  "1c7 2 4c 4a 1c8 2 4c 6a 1c9 2 6c 6a 1ca 2 4e 4a 1cb 2 4e 6a 1cc 2 6e 6a 1cd 2 41 30c 1ce 2 61",
  "30c 1cf 2 49 30c 1d0 2 69 30c 1d1 2 4f 30c 1d2 2 6f 30c 1d3 2 55 30c 1d4 2 75 30c 1d5 3 55 308",
  "304 1d6 3 75 308 304 1d7 3 55 308 301 1d8 3 75 308 301 1d9 3 55 308 30c 1da 3 75 308 30c 1db 3",
  "55 308 300 1dc 3 75 308 300 1de 3 41 308 304 1df 3 61 308 304 1e0 3 41 307 304 1e1 3 61 307 304",
  "1e2 2 c6 304 1e3 2 e6 304 1e6 2 47 30c 1e7 2 67 30c 1e8 2 4b 30c 1e9 2 6b 30c 1ea 2 4f 328 1eb 2",
  "6f 328 1ec 3 4f 328 304 1ed 3 6f 328 304 1ee 2 1b7 30c 1ef 2 292 30c 1f0 2 6a 30c 1f1 2 44 5a",
  "1f2 2 44 7a 1f3 2 64 7a 1f4 2 47 301 1f5 2 67 301 1f8 2 4e 300 1f9 2 6e 300 1fa 3 41 30a 301 1fb",
  "3 61 30a 301 1fc 2 c6 301 1fd 2 e6 301 1fe 2 d8 301 1ff 2 f8 301 200 2 41 30f 201 2 61 30f 202 2",
  "41 311 203 2 61 311 204 2 45 30f 205 2 65 30f 206 2 45 311 207 2 65 311 208 2 49 30f 209 2 69",
  "30f 20a 2 49 311 20b 2 69 311 20c 2 4f 30f 20d 2 6f 30f 20e 2 4f 311 20f 2 6f 311 210 2 52 30f",
  "211 2 72 30f 212 2 52 311 213 2 72 311 214 2 55 30f 215 2 75 30f 216 2 55 311 217 2 75 311 218 2",
  "53 326 219 2 73 326 21a 2 54 326 21b 2 74 326 21e 2 48 30c 21f 2 68 30c 226 2 41 307 227 2 61",
  "307 228 2 45 327 229 2 65 327 22a 3 4f 308 304 22b 3 6f 308 304 22c 3 4f 303 304 22d 3 6f 303",
  "304 22e 2 4f 307 22f 2 6f 307 230 3 4f 307 304 231 3 6f 307 304 232 2 59 304 233 2 79 304 344 2",
  "308 301 386 2 391 301 388 2 395 301 389 2 397 301 38a 2 399 301 38c 2 39f 301 38e 2 3a5 301 38f",
  "2 3a9 301 390 3 3b9 308 301 3aa 2 399 308 3ab 2 3a5 308 3ac 2 3b1 301 3ad 2 3b5 301 3ae 2 3b7",
  "301 3af 2 3b9 301 3b0 3 3c5 308 301 3ca 2 3b9 308 3cb 2 3c5 308 3cc 2 3bf 301 3cd 2 3c5 301 3ce",
  "2 3c9 301 3d3 2 3a5 301 3d4 2 3a5 308 400 2 415 300 401 2 415 308 403 2 413 301 407 2 406 308",
  "40c 2 41a 301 40d 2 418 300 40e 2 423 306 419 2 418 306 439 2 438 306 450 2 435 300 451 2 435",
  "308 453 2 433 301 457 2 456 308 45c 2 43a 301 45d 2 438 300 45e 2 443 306 476 2 474 30f 477 2",
  "475 30f 4c1 2 416 306 4c2 2 436 306 4d0 2 410 306 4d1 2 430 306 4d2 2 410 308 4d3 2 430 308 4d6",
  "2 415 306 4d7 2 435 306 4da 2 4d8 308 4db 2 4d9 308 4dc 2 416 308 4dd 2 436 308 4de 2 417 308",
  "4df 2 437 308 4e2 2 418 304 4e3 2 438 304 4e4 2 418 308 4e5 2 438 308 4e6 2 41e 308 4e7 2 43e",
  "308 4ea 2 4e8 308 4eb 2 4e9 308 4ec 2 42d 308 4ed 2 44d 308 4ee 2 423 304 4ef 2 443 304 4f0 2",
  "423 308 4f1 2 443 308 4f2 2 423 30b 4f3 2 443 30b 4f4 2 427 308 4f5 2 447 308 4f8 2 42b 308 4f9",
  "2 44b 308 587 2 565 582 622 2 627 653 623 2 627 654 624 2 648 654 625 2 627 655 626 2 64a 654",
  "675 2 627 674 676 2 648 674 677 2 6c7 674 678 2 64a 674 6c0 2 6d5 654 6c2 2 6c1 654 6d3 2 6d2",
  "654 929 2 928 93c 931 2 930 93c 934 2 933 93c 958 2 915 93c 959 2 916 93c 95a 2 917 93c 95b 2",
  "91c 93c 95c 2 921 93c 95d 2 922 93c 95e 2 92b 93c 95f 2 92f 93c 9cb 2 9c7 9be 9cc 2 9c7 9d7 9dc",
  "2 9a1 9bc 9dd 2 9a2 9bc 9df 2 9af 9bc a33 2 a32 a3c a36 2 a38 a3c a59 2 a16 a3c a5a 2 a17 a3c",
  "a5b 2 a1c a3c a5e 2 a2b a3c b48 2 b47 b56 b4b 2 b47 b3e b4c 2 b47 b57 b5c 2 b21 b3c b5d 2 b22",
  "b3c b94 2 b92 bd7 bca 2 bc6 bbe bcb 2 bc7 bbe bcc 2 bc6 bd7 c48 2 c46 c56 cc0 2 cbf cd5 cc7 2",
  "cc6 cd5 cc8 2 cc6 cd6 cca 2 cc6 cc2 ccb 3 cc6 cc2 cd5 d4a 2 d46 d3e d4b 2 d47 d3e d4c 2 d46 d57",
  "dda 2 dd9 dca ddc 2 dd9 dcf ddd 3 dd9 dcf dca dde 2 dd9 ddf e33 2 e4d e32 eb3 2 ecd eb2 edc 2",
  "eab e99 edd 2 eab ea1 f43 2 f42 fb7 f4d 2 f4c fb7 f52 2 f51 fb7 f57 2 f56 fb7 f5c 2 f5b fb7 f69",
  "2 f40 fb5 f73 2 f71 f72 f75 2 f71 f74 f76 2 fb2 f80 f77 3 fb2 f71 f80 f78 2 fb3 f80 f79 3 fb3",
  "f71 f80 f81 2 f71 f80 f93 2 f92 fb7 f9d 2 f9c fb7 fa2 2 fa1 fb7 fa7 2 fa6 fb7 fac 2 fab fb7 fb9",
  "2 f90 fb5 1026 2 1025 102e 1b06 2 1b05 1b35 1b08 2 1b07 1b35 1b0a 2 1b09 1b35 1b0c 2 1b0b 1b35",
  "1b0e 2 1b0d 1b35 1b12 2 1b11 1b35 1b3b 2 1b3a 1b35 1b3d 2 1b3c 1b35 1b40 2 1b3e 1b35 1b41 2 1b3f",
  "1b35 1b43 2 1b42 1b35 1e00 2 41 325 1e01 2 61 325 1e02 2 42 307 1e03 2 62 307 1e04 2 42 323 1e05",
  "2 62 323 1e06 2 42 331 1e07 2 62 331 1e08 3 43 327 301 1e09 3 63 327 301 1e0a 2 44 307 1e0b 2 64",
  "307 1e0c 2 44 323 1e0d 2 64 323 1e0e 2 44 331 1e0f 2 64 331 1e10 2 44 327 1e11 2 64 327 1e12 2",
  "44 32d 1e13 2 64 32d 1e14 3 45 304 300 1e15 3 65 304 300 1e16 3 45 304 301 1e17 3 65 304 301",
  "1e18 2 45 32d 1e19 2 65 32d 1e1a 2 45 330 1e1b 2 65 330 1e1c 3 45 327 306 1e1d 3 65 327 306 1e1e",
  "2 46 307 1e1f 2 66 307 1e20 2 47 304 1e21 2 67 304 1e22 2 48 307 1e23 2 68 307 1e24 2 48 323",
  "1e25 2 68 323 1e26 2 48 308 1e27 2 68 308 1e28 2 48 327 1e29 2 68 327 1e2a 2 48 32e 1e2b 2 68",
  "32e 1e2c 2 49 330 1e2d 2 69 330 1e2e 3 49 308 301 1e2f 3 69 308 301 1e30 2 4b 301 1e31 2 6b 301",
  "1e32 2 4b 323 1e33 2 6b 323 1e34 2 4b 331 1e35 2 6b 331 1e36 2 4c 323 1e37 2 6c 323 1e38 3 4c",
  "323 304 1e39 3 6c 323 304 1e3a 2 4c 331 1e3b 2 6c 331 1e3c 2 4c 32d 1e3d 2 6c 32d 1e3e 2 4d 301",
  "1e3f 2 6d 301 1e40 2 4d 307 1e41 2 6d 307 1e42 2 4d 323 1e43 2 6d 323 1e44 2 4e 307 1e45 2 6e",
  "307 1e46 2 4e 323 1e47 2 6e 323 1e48 2 4e 331 1e49 2 6e 331 1e4a 2 4e 32d 1e4b 2 6e 32d 1e4c 3",
  "4f 303 301 1e4d 3 6f 303 301 1e4e 3 4f 303 308 1e4f 3 6f 303 308 1e50 3 4f 304 300 1e51 3 6f 304",
  "300 1e52 3 4f 304 301 1e53 3 6f 304 301 1e54 2 50 301 1e55 2 70 301 1e56 2 50 307 1e57 2 70 307",
  "1e58 2 52 307 1e59 2 72 307 1e5a 2 52 323 1e5b 2 72 323 1e5c 3 52 323 304 1e5d 3 72 323 304 1e5e",
  "2 52 331 1e5f 2 72 331 1e60 2 53 307 1e61 2 73 307 1e62 2 53 323 1e63 2 73 323 1e64 3 53 301 307",
  "1e65 3 73 301 307 1e66 3 53 30c 307 1e67 3 73 30c 307 1e68 3 53 323 307 1e69 3 73 323 307 1e6a 2",
  "54 307 1e6b 2 74 307 1e6c 2 54 323 1e6d 2 74 323 1e6e 2 54 331 1e6f 2 74 331 1e70 2 54 32d 1e71",
  "2 74 32d 1e72 2 55 324 1e73 2 75 324 1e74 2 55 330 1e75 2 75 330 1e76 2 55 32d 1e77 2 75 32d",
  "1e78 3 55 303 301 1e79 3 75 303 301 1e7a 3 55 304 308 1e7b 3 75 304 308 1e7c 2 56 303 1e7d 2 76",
  "303 1e7e 2 56 323 1e7f 2 76 323 1e80 2 57 300 1e81 2 77 300 1e82 2 57 301 1e83 2 77 301 1e84 2",
  "57 308 1e85 2 77 308 1e86 2 57 307 1e87 2 77 307 1e88 2 57 323 1e89 2 77 323 1e8a 2 58 307 1e8b",
  "2 78 307 1e8c 2 58 308 1e8d 2 78 308 1e8e 2 59 307 1e8f 2 79 307 1e90 2 5a 302 1e91 2 7a 302",
  "1e92 2 5a 323 1e93 2 7a 323 1e94 2 5a 331 1e95 2 7a 331 1e96 2 68 331 1e97 2 74 308 1e98 2 77",
  "30a 1e99 2 79 30a 1e9a 2 61 2be 1e9b 2 73 307 1ea0 2 41 323 1ea1 2 61 323 1ea2 2 41 309 1ea3 2",
  "61 309 1ea4 3 41 302 301 1ea5 3 61 302 301 1ea6 3 41 302 300 1ea7 3 61 302 300 1ea8 3 41 302 309",
  "1ea9 3 61 302 309 1eaa 3 41 302 303 1eab 3 61 302 303 1eac 3 41 323 302 1ead 3 61 323 302 1eae 3",
  "41 306 301 1eaf 3 61 306 301 1eb0 3 41 306 300 1eb1 3 61 306 300 1eb2 3 41 306 309 1eb3 3 61 306",
  "309 1eb4 3 41 306 303 1eb5 3 61 306 303 1eb6 3 41 323 306 1eb7 3 61 323 306 1eb8 2 45 323 1eb9 2",
  "65 323 1eba 2 45 309 1ebb 2 65 309 1ebc 2 45 303 1ebd 2 65 303 1ebe 3 45 302 301 1ebf 3 65 302",
  "301 1ec0 3 45 302 300 1ec1 3 65 302 300 1ec2 3 45 302 309 1ec3 3 65 302 309 1ec4 3 45 302 303",
  "1ec5 3 65 302 303 1ec6 3 45 323 302 1ec7 3 65 323 302 1ec8 2 49 309 1ec9 2 69 309 1eca 2 49 323",
  "1ecb 2 69 323 1ecc 2 4f 323 1ecd 2 6f 323 1ece 2 4f 309 1ecf 2 6f 309 1ed0 3 4f 302 301 1ed1 3",
  "6f 302 301 1ed2 3 4f 302 300 1ed3 3 6f 302 300 1ed4 3 4f 302 309 1ed5 3 6f 302 309 1ed6 3 4f 302",
  "303 1ed7 3 6f 302 303 1ed8 3 4f 323 302 1ed9 3 6f 323 302 1eda 3 4f 31b 301 1edb 3 6f 31b 301",
  "1edc 3 4f 31b 300 1edd 3 6f 31b 300 1ede 3 4f 31b 309 1edf 3 6f 31b 309 1ee0 3 4f 31b 303 1ee1 3",
  "6f 31b 303 1ee2 3 4f 31b 323 1ee3 3 6f 31b 323 1ee4 2 55 323 1ee5 2 75 323 1ee6 2 55 309 1ee7 2",
  "75 309 1ee8 3 55 31b 301 1ee9 3 75 31b 301 1eea 3 55 31b 300 1eeb 3 75 31b 300 1eec 3 55 31b 309",
  "1eed 3 75 31b 309 1eee 3 55 31b 303 1eef 3 75 31b 303 1ef0 3 55 31b 323 1ef1 3 75 31b 323 1ef2 2",
  "59 300 1ef3 2 79 300 1ef4 2 59 323 1ef5 2 79 323 1ef6 2 59 309 1ef7 2 79 309 1ef8 2 59 303 1ef9",
  "2 79 303 1f00 2 3b1 313 1f01 2 3b1 314 1f02 3 3b1 313 300 1f03 3 3b1 314 300 1f04 3 3b1 313 301",
  "1f05 3 3b1 314 301 1f06 3 3b1 313 342 1f07 3 3b1 314 342 1f08 2 391 313 1f09 2 391 314 1f0a 3",
  "391 313 300 1f0b 3 391 314 300 1f0c 3 391 313 301 1f0d 3 391 314 301 1f0e 3 391 313 342 1f0f 3",
  "391 314 342 1f10 2 3b5 313 1f11 2 3b5 314 1f12 3 3b5 313 300 1f13 3 3b5 314 300 1f14 3 3b5 313",
  "301 1f15 3 3b5 314 301 1f18 2 395 313 1f19 2 395 314 1f1a 3 395 313 300 1f1b 3 395 314 300 1f1c",
  "3 395 313 301 1f1d 3 395 314 301 1f20 2 3b7 313 1f21 2 3b7 314 1f22 3 3b7 313 300 1f23 3 3b7 314",
  "300 1f24 3 3b7 313 301 1f25 3 3b7 314 301 1f26 3 3b7 313 342 1f27 3 3b7 314 342 1f28 2 397 313",
  "1f29 2 397 314 1f2a 3 397 313 300 1f2b 3 397 314 300 1f2c 3 397 313 301 1f2d 3 397 314 301 1f2e",
  "3 397 313 342 1f2f 3 397 314 342 1f30 2 3b9 313 1f31 2 3b9 314 1f32 3 3b9 313 300 1f33 3 3b9 314",
  "300 1f34 3 3b9 313 301 1f35 3 3b9 314 301 1f36 3 3b9 313 342 1f37 3 3b9 314 342 1f38 2 399 313",
  "1f39 2 399 314 1f3a 3 399 313 300 1f3b 3 399 314 300 1f3c 3 399 313 301 1f3d 3 399 314 301 1f3e",
  "3 399 313 342 1f3f 3 399 314 342 1f40 2 3bf 313 1f41 2 3bf 314 1f42 3 3bf 313 300 1f43 3 3bf 314",
  "300 1f44 3 3bf 313 301 1f45 3 3bf 314 301 1f48 2 39f 313 1f49 2 39f 314 1f4a 3 39f 313 300 1f4b",
  "3 39f 314 300 1f4c 3 39f 313 301 1f4d 3 39f 314 301 1f50 2 3c5 313 1f51 2 3c5 314 1f52 3 3c5 313",
  "300 1f53 3 3c5 314 300 1f54 3 3c5 313 301 1f55 3 3c5 314 301 1f56 3 3c5 313 342 1f57 3 3c5 314",
  "342 1f59 2 3a5 314 1f5b 3 3a5 314 300 1f5d 3 3a5 314 301 1f5f 3 3a5 314 342 1f60 2 3c9 313 1f61",
  "2 3c9 314 1f62 3 3c9 313 300 1f63 3 3c9 314 300 1f64 3 3c9 313 301 1f65 3 3c9 314 301 1f66 3 3c9",
  "313 342 1f67 3 3c9 314 342 1f68 2 3a9 313 1f69 2 3a9 314 1f6a 3 3a9 313 300 1f6b 3 3a9 314 300",
  "1f6c 3 3a9 313 301 1f6d 3 3a9 314 301 1f6e 3 3a9 313 342 1f6f 3 3a9 314 342 1f70 2 3b1 300 1f71",
  "2 3b1 301 1f72 2 3b5 300 1f73 2 3b5 301 1f74 2 3b7 300 1f75 2 3b7 301 1f76 2 3b9 300 1f77 2 3b9",
  "301 1f78 2 3bf 300 1f79 2 3bf 301 1f7a 2 3c5 300 1f7b 2 3c5 301 1f7c 2 3c9 300 1f7d 2 3c9 301",
  "1f80 3 3b1 313 345 1f81 3 3b1 314 345 1f82 4 3b1 313 300 345 1f83 4 3b1 314 300 345 1f84 4 3b1",
  "313 301 345 1f85 4 3b1 314 301 345 1f86 4 3b1 313 342 345 1f87 4 3b1 314 342 345 1f88 3 391 313",
  "345 1f89 3 391 314 345 1f8a 4 391 313 300 345 1f8b 4 391 314 300 345 1f8c 4 391 313 301 345 1f8d",
  "4 391 314 301 345 1f8e 4 391 313 342 345 1f8f 4 391 314 342 345 1f90 3 3b7 313 345 1f91 3 3b7",
  "314 345 1f92 4 3b7 313 300 345 1f93 4 3b7 314 300 345 1f94 4 3b7 313 301 345 1f95 4 3b7 314 301",
  "345 1f96 4 3b7 313 342 345 1f97 4 3b7 314 342 345 1f98 3 397 313 345 1f99 3 397 314 345 1f9a 4",
  "397 313 300 345 1f9b 4 397 314 300 345 1f9c 4 397 313 301 345 1f9d 4 397 314 301 345 1f9e 4 397",
  "313 342 345 1f9f 4 397 314 342 345 1fa0 3 3c9 313 345 1fa1 3 3c9 314 345 1fa2 4 3c9 313 300 345",
  "1fa3 4 3c9 314 300 345 1fa4 4 3c9 313 301 345 1fa5 4 3c9 314 301 345 1fa6 4 3c9 313 342 345 1fa7",
  "4 3c9 314 342 345 1fa8 3 3a9 313 345 1fa9 3 3a9 314 345 1faa 4 3a9 313 300 345 1fab 4 3a9 314",
  "300 345 1fac 4 3a9 313 301 345 1fad 4 3a9 314 301 345 1fae 4 3a9 313 342 345 1faf 4 3a9 314 342",
  "345 1fb0 2 3b1 306 1fb1 2 3b1 304 1fb2 3 3b1 300 345 1fb3 2 3b1 345 1fb4 3 3b1 301 345 1fb6 2",
  "3b1 342 1fb7 3 3b1 342 345 1fb8 2 391 306 1fb9 2 391 304 1fba 2 391 300 1fbb 2 391 301 1fbc 2",
  "391 345 1fc2 3 3b7 300 345 1fc3 2 3b7 345 1fc4 3 3b7 301 345 1fc6 2 3b7 342 1fc7 3 3b7 342 345",
  "1fc8 2 395 300 1fc9 2 395 301 1fca 2 397 300 1fcb 2 397 301 1fcc 2 397 345 1fd0 2 3b9 306 1fd1 2",
  "3b9 304 1fd2 3 3b9 308 300 1fd3 3 3b9 308 301 1fd6 2 3b9 342 1fd7 3 3b9 308 342 1fd8 2 399 306",
  "1fd9 2 399 304 1fda 2 399 300 1fdb 2 399 301 1fe0 2 3c5 306 1fe1 2 3c5 304 1fe2 3 3c5 308 300",
  "1fe3 3 3c5 308 301 1fe4 2 3c1 313 1fe5 2 3c1 314 1fe6 2 3c5 342 1fe7 3 3c5 308 342 1fe8 2 3a5",
  "306 1fe9 2 3a5 304 1fea 2 3a5 300 1feb 2 3a5 301 1fec 2 3a1 314 1ff2 3 3c9 300 345 1ff3 2 3c9",
  "345 1ff4 3 3c9 301 345 1ff6 2 3c9 342 1ff7 3 3c9 342 345 1ff8 2 39f 300 1ff9 2 39f 301 1ffa 2",
  "3a9 300 1ffb 2 3a9 301 1ffc 2 3a9 345 212b 2 41 30a 2161 2 49 49 2162 3 49 49 49 2163 2 49 56",
  "2165 2 56 49 2166 3 56 49 49 2167 4 56 49 49 49 2168 2 49 58 216a 2 58 49 216b 3 58 49 49 2171 2",
  "69 69 2172 3 69 69 69 2173 2 69 76 2175 2 76 69 2176 3 76 69 69 2177 4 76 69 69 69 2178 2 69 78",
  "217a 2 78 69 217b 3 78 69 69 304c 2 304b 3099 304e 2 304d 3099 3050 2 304f 3099 3052 2 3051 3099",
  "3054 2 3053 3099 3056 2 3055 3099 3058 2 3057 3099 305a 2 3059 3099 305c 2 305b 3099 305e 2 305d",
  "3099 3060 2 305f 3099 3062 2 3061 3099 3065 2 3064 3099 3067 2 3066 3099 3069 2 3068 3099 3070 2",
  "306f 3099 3071 2 306f 309a 3073 2 3072 3099 3074 2 3072 309a 3076 2 3075 3099 3077 2 3075 309a",
  "3079 2 3078 3099 307a 2 3078 309a 307c 2 307b 3099 307d 2 307b 309a 3094 2 3046 3099 309e 2 309d",
  "3099 309f 2 3088 308a 30ac 2 30ab 3099 30ae 2 30ad 3099 30b0 2 30af 3099 30b2 2 30b1 3099 30b4 2",
  "30b3 3099 30b6 2 30b5 3099 30b8 2 30b7 3099 30ba 2 30b9 3099 30bc 2 30bb 3099 30be 2 30bd 3099",
  "30c0 2 30bf 3099 30c2 2 30c1 3099 30c5 2 30c4 3099 30c7 2 30c6 3099 30c9 2 30c8 3099 30d0 2 30cf",
  "3099 30d1 2 30cf 309a 30d3 2 30d2 3099 30d4 2 30d2 309a 30d6 2 30d5 3099 30d7 2 30d5 309a 30d9 2",
  "30d8 3099 30da 2 30d8 309a 30dc 2 30db 3099 30dd 2 30db 309a 30f4 2 30a6 3099 30f7 2 30ef 3099",
  "30f8 2 30f0 3099 30f9 2 30f1 3099 30fa 2 30f2 3099 30fe 2 30fd 3099 30ff 2 30b3 30c8 fb00 2 66",
  "66 fb01 2 66 69 fb02 2 66 6c fb03 3 66 66 69 fb04 3 66 66 6c fb05 2 73 74 fb06 2 73 74 fb13 2",
  "574 576 fb14 2 574 565 fb15 2 574 56b fb16 2 57e 576 fb17 2 574 56d fb1d 2 5d9 5b4 fb1f 2 5f2",
  "5b7 fb2a 2 5e9 5c1 fb2b 2 5e9 5c2 fb2c 3 5e9 5bc 5c1 fb2d 3 5e9 5bc 5c2 fb2e 2 5d0 5b7 fb2f 2",
  "5d0 5b8 fb30 2 5d0 5bc fb31 2 5d1 5bc fb32 2 5d2 5bc fb33 2 5d3 5bc fb34 2 5d4 5bc fb35 2 5d5",
  "5bc fb36 2 5d6 5bc fb38 2 5d8 5bc fb39 2 5d9 5bc fb3a 2 5da 5bc fb3b 2 5db 5bc fb3c 2 5dc 5bc",
  "fb3e 2 5de 5bc fb40 2 5e0 5bc fb41 2 5e1 5bc fb43 2 5e3 5bc fb44 2 5e4 5bc fb46 2 5e6 5bc fb47 2",
  "5e7 5bc fb48 2 5e8 5bc fb49 2 5e9 5bc fb4a 2 5ea 5bc fb4b 2 5d5 5b9 fb4c 2 5d1 5bf fb4d 2 5db",
  "5bf fb4e 2 5e4 5bf fb4f 2 5d0 5dc fba4 2 6d5 654 fba5 2 6d5 654 fbb0 2 6d2 654 fbb1 2 6d2 654",
  "fbdd 2 6c7 674 fbea 3 64a 654 627 fbeb 3 64a 654 627 fbec 3 64a 654 6d5 fbed 3 64a 654 6d5 fbee",
  "3 64a 654 648 fbef 3 64a 654 648 fbf0 3 64a 654 6c7 fbf1 3 64a 654 6c7 fbf2 3 64a 654 6c6 fbf3 3",
  "64a 654 6c6 fbf4 3 64a 654 6c8 fbf5 3 64a 654 6c8 fbf6 3 64a 654 6d0 fbf7 3 64a 654 6d0 fbf8 3",
  "64a 654 6d0 fbf9 3 64a 654 649 fbfa 3 64a 654 649 fbfb 3 64a 654 649 fc00 3 64a 654 62c fc01 3",
  "64a 654 62d fc02 3 64a 654 645 fc03 3 64a 654 649 fc04 3 64a 654 64a fc05 2 628 62c fc06 2 628",
  "62d fc07 2 628 62e fc08 2 628 645 fc09 2 628 649 fc0a 2 628 64a fc0b 2 62a 62c fc0c 2 62a 62d",
  "fc0d 2 62a 62e fc0e 2 62a 645 fc0f 2 62a 649 fc10 2 62a 64a fc11 2 62b 62c fc12 2 62b 645 fc13 2",
  "62b 649 fc14 2 62b 64a fc15 2 62c 62d fc16 2 62c 645 fc17 2 62d 62c fc18 2 62d 645 fc19 2 62e",
  "62c fc1a 2 62e 62d fc1b 2 62e 645 fc1c 2 633 62c fc1d 2 633 62d fc1e 2 633 62e fc1f 2 633 645",
  "fc20 2 635 62d fc21 2 635 645 fc22 2 636 62c fc23 2 636 62d fc24 2 636 62e fc25 2 636 645 fc26 2",
  "637 62d fc27 2 637 645 fc28 2 638 645 fc29 2 639 62c fc2a 2 639 645 fc2b 2 63a 62c fc2c 2 63a",
  "645 fc2d 2 641 62c fc2e 2 641 62d fc2f 2 641 62e fc30 2 641 645 fc31 2 641 649 fc32 2 641 64a",
  "fc33 2 642 62d fc34 2 642 645 fc35 2 642 649 fc36 2 642 64a fc37 2 643 627 fc38 2 643 62c fc39 2",
  "643 62d fc3a 2 643 62e fc3b 2 643 644 fc3c 2 643 645 fc3d 2 643 649 fc3e 2 643 64a fc3f 2 644",
  "62c fc40 2 644 62d fc41 2 644 62e fc42 2 644 645 fc43 2 644 649 fc44 2 644 64a fc45 2 645 62c",
  "fc46 2 645 62d fc47 2 645 62e fc48 2 645 645 fc49 2 645 649 fc4a 2 645 64a fc4b 2 646 62c fc4c 2",
  "646 62d fc4d 2 646 62e fc4e 2 646 645 fc4f 2 646 649 fc50 2 646 64a fc51 2 647 62c fc52 2 647",
  "645 fc53 2 647 649 fc54 2 647 64a fc55 2 64a 62c fc56 2 64a 62d fc57 2 64a 62e fc58 2 64a 645",
  "fc59 2 64a 649 fc5a 2 64a 64a fc5b 2 630 670 fc5c 2 631 670 fc5d 2 649 670 fc64 3 64a 654 631",
  "fc65 3 64a 654 632 fc66 3 64a 654 645 fc67 3 64a 654 646 fc68 3 64a 654 649 fc69 3 64a 654 64a",
  "fc6a 2 628 631 fc6b 2 628 632 fc6c 2 628 645 fc6d 2 628 646 fc6e 2 628 649 fc6f 2 628 64a fc70 2",
  "62a 631 fc71 2 62a 632 fc72 2 62a 645 fc73 2 62a 646 fc74 2 62a 649 fc75 2 62a 64a fc76 2 62b",
  "631 fc77 2 62b 632 fc78 2 62b 645 fc79 2 62b 646 fc7a 2 62b 649 fc7b 2 62b 64a fc7c 2 641 649",
  "fc7d 2 641 64a fc7e 2 642 649 fc7f 2 642 64a fc80 2 643 627 fc81 2 643 644 fc82 2 643 645 fc83 2",
  "643 649 fc84 2 643 64a fc85 2 644 645 fc86 2 644 649 fc87 2 644 64a fc88 2 645 627 fc89 2 645",
  "645 fc8a 2 646 631 fc8b 2 646 632 fc8c 2 646 645 fc8d 2 646 646 fc8e 2 646 649 fc8f 2 646 64a",
  "fc90 2 649 670 fc91 2 64a 631 fc92 2 64a 632 fc93 2 64a 645 fc94 2 64a 646 fc95 2 64a 649 fc96 2",
  "64a 64a fc97 3 64a 654 62c fc98 3 64a 654 62d fc99 3 64a 654 62e fc9a 3 64a 654 645 fc9b 3 64a",
  "654 647 fc9c 2 628 62c fc9d 2 628 62d fc9e 2 628 62e fc9f 2 628 645 fca0 2 628 647 fca1 2 62a",
  "62c fca2 2 62a 62d fca3 2 62a 62e fca4 2 62a 645 fca5 2 62a 647 fca6 2 62b 645 fca7 2 62c 62d",
  "fca8 2 62c 645 fca9 2 62d 62c fcaa 2 62d 645 fcab 2 62e 62c fcac 2 62e 645 fcad 2 633 62c fcae 2",
  "633 62d fcaf 2 633 62e fcb0 2 633 645 fcb1 2 635 62d fcb2 2 635 62e fcb3 2 635 645 fcb4 2 636",
  "62c fcb5 2 636 62d fcb6 2 636 62e fcb7 2 636 645 fcb8 2 637 62d fcb9 2 638 645 fcba 2 639 62c",
  "fcbb 2 639 645 fcbc 2 63a 62c fcbd 2 63a 645 fcbe 2 641 62c fcbf 2 641 62d fcc0 2 641 62e fcc1 2",
  "641 645 fcc2 2 642 62d fcc3 2 642 645 fcc4 2 643 62c fcc5 2 643 62d fcc6 2 643 62e fcc7 2 643",
  "644 fcc8 2 643 645 fcc9 2 644 62c fcca 2 644 62d fccb 2 644 62e fccc 2 644 645 fccd 2 644 647",
  "fcce 2 645 62c fccf 2 645 62d fcd0 2 645 62e fcd1 2 645 645 fcd2 2 646 62c fcd3 2 646 62d fcd4 2",
  "646 62e fcd5 2 646 645 fcd6 2 646 647 fcd7 2 647 62c fcd8 2 647 645 fcd9 2 647 670 fcda 2 64a",
  "62c fcdb 2 64a 62d fcdc 2 64a 62e fcdd 2 64a 645 fcde 2 64a 647 fcdf 3 64a 654 645 fce0 3 64a",
  "654 647 fce1 2 628 645 fce2 2 628 647 fce3 2 62a 645 fce4 2 62a 647 fce5 2 62b 645 fce6 2 62b",
  "647 fce7 2 633 645 fce8 2 633 647 fce9 2 634 645 fcea 2 634 647 fceb 2 643 644 fcec 2 643 645",
  "fced 2 644 645 fcee 2 646 645 fcef 2 646 647 fcf0 2 64a 645 fcf1 2 64a 647 fcf2 3 640 64e 651",
  "fcf3 3 640 64f 651 fcf4 3 640 650 651 fcf5 2 637 649 fcf6 2 637 64a fcf7 2 639 649 fcf8 2 639",
  "64a fcf9 2 63a 649 fcfa 2 63a 64a fcfb 2 633 649 fcfc 2 633 64a fcfd 2 634 649 fcfe 2 634 64a",
  "fcff 2 62d 649 fd00 2 62d 64a fd01 2 62c 649 fd02 2 62c 64a fd03 2 62e 649 fd04 2 62e 64a fd05 2",
  "635 649 fd06 2 635 64a fd07 2 636 649 fd08 2 636 64a fd09 2 634 62c fd0a 2 634 62d fd0b 2 634",
  "62e fd0c 2 634 645 fd0d 2 634 631 fd0e 2 633 631 fd0f 2 635 631 fd10 2 636 631 fd11 2 637 649",
  "fd12 2 637 64a fd13 2 639 649 fd14 2 639 64a fd15 2 63a 649 fd16 2 63a 64a fd17 2 633 649 fd18 2",
  "633 64a fd19 2 634 649 fd1a 2 634 64a fd1b 2 62d 649 fd1c 2 62d 64a fd1d 2 62c 649 fd1e 2 62c",
  "64a fd1f 2 62e 649 fd20 2 62e 64a fd21 2 635 649 fd22 2 635 64a fd23 2 636 649 fd24 2 636 64a",
  "fd25 2 634 62c fd26 2 634 62d fd27 2 634 62e fd28 2 634 645 fd29 2 634 631 fd2a 2 633 631 fd2b 2",
  "635 631 fd2c 2 636 631 fd2d 2 634 62c fd2e 2 634 62d fd2f 2 634 62e fd30 2 634 645 fd31 2 633",
  "647 fd32 2 634 647 fd33 2 637 645 fd34 2 633 62c fd35 2 633 62d fd36 2 633 62e fd37 2 634 62c",
  "fd38 2 634 62d fd39 2 634 62e fd3a 2 637 645 fd3b 2 638 645 fd3c 2 627 64b fd3d 2 627 64b fd50 3",
  "62a 62c 645 fd51 3 62a 62d 62c fd52 3 62a 62d 62c fd53 3 62a 62d 645 fd54 3 62a 62e 645 fd55 3",
  "62a 645 62c fd56 3 62a 645 62d fd57 3 62a 645 62e fd58 3 62c 645 62d fd59 3 62c 645 62d fd5a 3",
  "62d 645 64a fd5b 3 62d 645 649 fd5c 3 633 62d 62c fd5d 3 633 62c 62d fd5e 3 633 62c 649 fd5f 3",
  "633 645 62d fd60 3 633 645 62d fd61 3 633 645 62c fd62 3 633 645 645 fd63 3 633 645 645 fd64 3",
  "635 62d 62d fd65 3 635 62d 62d fd66 3 635 645 645 fd67 3 634 62d 645 fd68 3 634 62d 645 fd69 3",
  "634 62c 64a fd6a 3 634 645 62e fd6b 3 634 645 62e fd6c 3 634 645 645 fd6d 3 634 645 645 fd6e 3",
  "636 62d 649 fd6f 3 636 62e 645 fd70 3 636 62e 645 fd71 3 637 645 62d fd72 3 637 645 62d fd73 3",
  "637 645 645 fd74 3 637 645 64a fd75 3 639 62c 645 fd76 3 639 645 645 fd77 3 639 645 645 fd78 3",
  "639 645 649 fd79 3 63a 645 645 fd7a 3 63a 645 64a fd7b 3 63a 645 649 fd7c 3 641 62e 645 fd7d 3",
  "641 62e 645 fd7e 3 642 645 62d fd7f 3 642 645 645 fd80 3 644 62d 645 fd81 3 644 62d 64a fd82 3",
  "644 62d 649 fd83 3 644 62c 62c fd84 3 644 62c 62c fd85 3 644 62e 645 fd86 3 644 62e 645 fd87 3",
  "644 645 62d fd88 3 644 645 62d fd89 3 645 62d 62c fd8a 3 645 62d 645 fd8b 3 645 62d 64a fd8c 3",
  "645 62c 62d fd8d 3 645 62c 645 fd8e 3 645 62e 62c fd8f 3 645 62e 645 fd92 3 645 62c 62e fd93 3",
  "647 645 62c fd94 3 647 645 645 fd95 3 646 62d 645 fd96 3 646 62d 649 fd97 3 646 62c 645 fd98 3",
  "646 62c 645 fd99 3 646 62c 649 fd9a 3 646 645 64a fd9b 3 646 645 649 fd9c 3 64a 645 645 fd9d 3",
  "64a 645 645 fd9e 3 628 62e 64a fd9f 3 62a 62c 64a fda0 3 62a 62c 649 fda1 3 62a 62e 64a fda2 3",
  "62a 62e 649 fda3 3 62a 645 64a fda4 3 62a 645 649 fda5 3 62c 645 64a fda6 3 62c 62d 649 fda7 3",
  "62c 645 649 fda8 3 633 62e 649 fda9 3 635 62d 64a fdaa 3 634 62d 64a fdab 3 636 62d 64a fdac 3",
  "644 62c 64a fdad 3 644 645 64a fdae 3 64a 62d 64a fdaf 3 64a 62c 64a fdb0 3 64a 645 64a fdb1 3",
  "645 645 64a fdb2 3 642 645 64a fdb3 3 646 62d 64a fdb4 3 642 645 62d fdb5 3 644 62d 645 fdb6 3",
  "639 645 64a fdb7 3 643 645 64a fdb8 3 646 62c 62d fdb9 3 645 62e 64a fdba 3 644 62c 645 fdbb 3",
  "643 645 645 fdbc 3 644 62c 645 fdbd 3 646 62c 62d fdbe 3 62c 62d 64a fdbf 3 62d 62c 64a fdc0 3",
  "645 62c 64a fdc1 3 641 645 64a fdc2 3 628 62d 64a fdc3 3 643 645 645 fdc4 3 639 62c 645 fdc5 3",
  "635 645 645 fdc6 3 633 62e 64a fdc7 3 646 62c 64a fdf0 3 635 644 6d2 fdf1 3 642 644 6d2 fdf2 4",
  "627 644 644 647 fdf3 4 627 643 628 631 fdf4 4 645 62d 645 62f fdf5 4 635 644 639 645 fdf6 4 631",
  "633 648 644 fdf7 4 639 644 64a 647 fdf8 4 648 633 644 645 fdf9 3 635 644 649 fe71 2 640 64b fe77",
  "2 640 64e fe79 2 640 64f fe7b 2 640 650 fe7d 2 640 651 fe7f 2 640 652 fe81 2 627 653 fe82 2 627",
  "653 fe83 2 627 654 fe84 2 627 654 fe85 2 648 654 fe86 2 648 654 fe87 2 627 655 fe88 2 627 655",
  "fe89 2 64a 654 fe8a 2 64a 654 fe8b 2 64a 654 fe8c 2 64a 654 fef5 3 644 627 653 fef6 3 644 627",
  "653 fef7 3 644 627 654 fef8 3 644 627 654 fef9 3 644 627 655 fefa 3 644 627 655 fefb 2 644 627",
  "fefc 2 644 627 1109a 2 11099 110ba 1109c 2 1109b 110ba 110ab 2 110a5 110ba 1112e 2 11131 11127",
  "1112f 2 11132 11127 1134b 2 11347 1133e 1134c 2 11347 11357 114bb 2 114b9 114ba 114bc 2 114b9",
  "114b0 114be 2 114b9 114bd 115ba 2 115b8 115af 115bb 2 115b9 115af 11938 2 11935 11930"]

def expansionIn (point : Nat) : Nat → List Nat → Option (List Nat)
  | fuel + 1, c :: length :: rest =>
    if c = point then some (rest.take length) else expansionIn point fuel (rest.drop length)
  | _, _ => none

def expansion? (point : Nat) : Option (List Nat) :=
  expansionIn point expansionFigures.length expansionFigures

def decompose (point : Nat) : List Nat :=
  match Hangul.letters? point with
  | some letters => letters
  | none =>
    match shiftTable.find? point with
    | some (first, target) => [target + (point - first)]
    | none => (expansion? point).getD [point]

end TypingAudit.Text
